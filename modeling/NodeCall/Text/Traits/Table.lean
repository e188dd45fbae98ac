import NodeCall.Text.Ranges

/-!
# Table of traits

The characters beyond ASCII that names of hosts may have, by their canonical combining class,
general category, bidirectional class and joining type in the Unicode character database,
version 17 with what 18 adds.  A label is the combining class, plus 256 for marks, plus 512 times
the number of the direction, plus 4096 times the number of the joining.
-/

namespace NodeCall.Text

def traitLines : List String := [
  "a1 36 800 20 0 800 1c2 1 800 8 d 800 3 1b 800 2 10 800 1 14 4be6 1 0 4be8 1 3 4bdc 1 0 4be8",
  "1 0 4bd8 1 4 4bdc 1 1 4bca 1 3 4bdc 1 1 4bca 1 a 4bdc 1 4 4b01 1 3 4bdc 1 9 4be6 1 2 4bdc",
  "1 2 4be6 1 1 4bdc 2 2 4be6 1 3 4bdc 1 0 4be6 1 0 4be8 1 1 4bdc 1 0 4be6 1 0 4be9 1 1 4bea",
  "1 0 4be9 1 1 4bea 1 0 4be9 1 c 4be6 6 0 800 81 0 800 8d 4 4be6 1 1 4b00 101 5 800 2 0 4bdc",
  "1 3 4be6 1 0 4bdc 1 2 4be6 1 0 4bde 1 0 4bdc 1 5 4be6 1 5 4bdc 1 1 4be6 1 0 4bdc 1 1 4be6",
  "1 0 4bde 1 0 4be4 1 0 4be6 1 0 4b0a 1 0 4b0b 1 0 4b0c 1 0 4b0d 1 0 4b0e 1 0 4b0f 1 0 4b10",
  "1 0 4b11 1 0 4b12 1 1 4b13 1 0 4b14 1 0 4b15 1 0 4b16 1 0 200 1 0 4b17 1 0 200 1 0 4b18",
  "1 0 4b19 1 0 200 1 0 4be6 1 0 4bdc 1 0 200 1 0 4b12 9 24 200 12 1 800 1 0 200 1 1 800 1 0 200",
  "1 0 800 1 0 200 1 1 800 1 7 4be6 1 0 4b1e 1 0 4b1f 1 0 4b20 1 4 200 1 0 1200 1 0 200 1 3 2200",
  "1 0 1200 1 0 2200 1 0 1200 1 0 2200 1 4 1200 1 3 2200 1 c 1200 1 0 200 1 6 1200 1 0 2200",
  "1 1 1200 1 0 4b1b 1 0 4b1c 1 0 4b1d 1 0 4b1e 1 0 4b1f 1 0 4b20 1 0 4b21 1 0 4b22 1 1 4be6",
  "1 1 4bdc 1 4 4be6 1 0 4bdc 1 1 4be6 1 0 4bdc 1 9 400 1 0 800 1 1 400 1 0 200 1 1 1200 1 0 4b23",
  "1 2 2200 1 0 200 5 e 1200 1 11 2200 1 25 1200 1 0 2200 1 1 1200 1 8 2200 1 0 1200 1 0 2200",
  "1 0 1200 1 0 2200 1 1 1200 1 1 2200 1 0 200 1 0 2200 1 6 4be6 2 0 800 1 3 4be6 1 0 4bdc",
  "1 0 4be6 1 1 200 1 1 4be6 1 0 800 1 0 4bdc 1 1 4be6 1 0 4bdc 1 1 2200 1 9 600 1 2 1200 1 1 200",
  "1 0 1200 1 d 200 3 0 2200 1 0 4b24 1 2 1200 1 4 2200 1 3 1200 1 0 2200 1 8 1200 1 0 2200",
  "1 0 1200 1 0 2200 1 0 1200 1 0 2200 1 1 1200 1 0 2200 1 0 4be6 1 0 4bdc 1 1 4be6 1 0 4bdc",
  "1 1 4be6 1 2 4bdc 1 0 4be6 1 1 4bdc 1 0 4be6 1 0 4bdc 1 2 4be6 1 0 4bdc 1 0 4be6 1 0 4bdc",
  "1 0 4be6 1 0 4bdc 1 0 4be6 1 0 4bdc 1 1 4be6 3 0 2200 1 a 1200 1 2 2200 1 e 1200 1 1 2200",
  "1 3 1200 1 0 2200 1 0 1200 1 1 2200 1 2 1200 1 1 2200 1 5 1200 1 25 200 1 a 4b00 1 18 200",
  "1 20 1200 1 6 4be6 1 0 4bdc 1 0 4be6 1 1 200 1 3 800 1 0 200 3 0 4bdc 1 17 200 1 3 4be6",
  "1 0 200 1 8 4be6 1 0 200 1 2 4be6 1 0 200 1 4 4be6 3 e 200 2 0 2200 1 4 1200 1 1 2200 1 0 1200",
  "1 0 2200 1 9 1200 1 0 2200 1 0 1200 1 2 2200 1 2 4bdc 3 0 200 2 0 1200 1 0 200 1 3 1200",
  "1 0 200 1 0 2200 1 0 1200 1 19 2200 1 2 200 1 0 1200 1 1 200 1 4 1200 1 0 2200 1 0 1200",
  "8 1 4be6 1 2 4bdc 1 3 4be6 1 9 1200 1 2 2200 1 0 200 1 0 2200 1 1 1200 1 1 2200 1 5 1200",
  "1 0 2200 1 e 1200 1 0 200 1 4 4be6 1 4 4bdc 1 d 4be6 2 0 4bdc 1 1 4be6 1 0 4bdc 1 1 4be6",
  "1 0 4bdc 1 2 4be6 1 2 4bdc 1 0 4b1b 1 0 4b1c 1 0 4b1d 1 2 4be6 1 0 4bdc 1 1 4be6 1 1 4bdc",
  "1 4 4be6 1 2 4b00 1 0 100 37 0 4b00 1 0 100 1 0 4b07 2 2 100 1 7 4b00 1 3 100 1 0 4b09 1 1 100",
  "2 0 4be6 1 0 4bdc 1 1 4be6 1 2 4b00 b 1 4b00 1e 0 4b00 1 1 100 39 0 4b07 2 2 100 1 3 4b00",
  "3 5 100 1 0 4b09 a 0 100 b 1 4b00 f 1 800 8 0 800 3 0 4be6 3 1 4b00 1 0 100 39 0 4b07 2 2 100",
  "1 b 4b00 1 0 4b09 4 0 4b00 1f 1 4b00 4 0 4b00 c 1 4b00 1 0 100 39 0 4b07 2 2 100 1 7 4b00",
  "1 3 100 1 0 4b09 15 1 4b00 e 0 800 9 7 4b00 1 1 100 39 0 4b07 2 0 100 1 0 4b00 1 0 100",
  "1 3 4b00 3 5 100 1 0 4b09 8 1 4b00 1 0 100 b 1 4b00 1f 0 4b00 3c 1 100 1 0 4b00 1 b 100",
  "1 0 4b09 a 0 100 1c 7 800 6 0 4b00 1 2 100 1 0 4b00 38 0 4b07 2 2 4b00 1 3 100 2 6 4b00",
  "1 0 4b09 8 0 4b54 1 0 4b5b c 1 4b00 15 6 800 3 0 4b00 1 1 100 39 0 4b07 2 0 100 1 0 4100",
  "1 4 100 2 0 4100 1 4 100 1 0 4b00 1 0 4b09 8 1 100 c 1 4b00 10 0 100 d 1 4b00 1 1 100",
  "38 1 4b09 2 2 100 1 3 4b00 2 6 100 1 0 4b09 a 0 100 b 1 4b00 1e 0 4b00 1 1 100 47 0 4b09",
  "5 2 100 1 4 4b00 2 7 100 13 1 100 3e 0 4b00 3 3 4b00 1 1 4b67 1 0 4b09 5 0 800 8 0 4b00",
  "1 3 4b6b 1 2 4b00 63 0 4b00 3 3 4b00 1 1 4b76 1 0 4b09 1 1 4b00 c 3 4b7a 1 2 4b00 4a 1 4bdc",
  "1c 0 4bdc 2 0 4bdc 2 0 4bd8 1 3 800 1 1 100 32 0 4b81 1 0 4b82 2 0 4b84 6 3 4b82 1 0 4b00",
  "1 0 100 1 0 4b82 2 1 4be6 1 0 4b09 2 1 4be6 6 2f 4b00 a 0 4bdc 65 1 100 1 3 4b00 1 0 100",
  "1 4 4b00 1 0 4b07 1 0 100 1 1 4b09 1 1 100 1 1 4b00 18 1 100 1 1 4b00 5 2 4b00 2 2 100 3 6 100",
  "4 3 4b00 e 0 4b00 1 1 100 1 1 4b00 1 5 100 1 0 4bdc 2 0 100 b 2 100 1 0 4b00 2c0 2 4be6",
  "31 9 800 67 0 800 29b 1 800 76 1 4b00 1 0 4b09 1 0 109 1d 1 4b00 1 0 109 1e 1 4b00 1f 1 4b00",
  "43 0 100 1 6 4b00 1 7 100 1 0 4b00 1 1 100 1 8 4b00 1 0 4b09 1 0 4b00 8 0 800 2 0 4be6",
  "13 16 800 1 0 1800 1 2 800 16 58 1000 d 1 4b00 1 21 1000 1 0 4be4 1 0 1000 76 2 4b00 1 3 100",
  "1 1 4b00 1 8 100 1 0 4b00 1 5 100 1 0 4bde 1 0 4be6 1 0 4bdc 5 5 800 99 21 800 18 0 4be6",
  "1 0 4bdc 1 1 100 1 0 4b00 3a 0 100 1 0 4b00 1 0 100 1 6 4b00 2 0 4b09 1 0 100 1 0 4b00 1 1 100",
  "1 7 4b00 1 5 100 1 1 4b00 1 7 4be6 3 0 4bdc 31 4 4be6 1 5 4bdc 1 1 4be6 1 0 4bdc 1 0 4b00",
  "1 1 4bdc 1 1 4be6 1 1 4bdc 1 4 4be6 1 0 4bdc 1 11 4be6 1 0 4bdc 3 5 4be6 1 0 4bdc 1 3 4be6",
  "1 0 4bea 15 3 4b00 1 0 100 30 0 4b07 1 0 100 1 4 4b00 1 0 100 1 0 4100 1 4 100 1 0 4b00",
  "1 0 100 1 0 109 27 0 4be6 1 0 4bdc 1 6 4be6 d 1 4b00 1 0 100 1f 0 100 1 3 4b00 1 1 100",
  "1 1 4b00 1 0 109 1 0 4b09 1 1 4b00 39 0 4b07 1 0 100 1 1 4b00 1 2 100 1 0 4b00 1 0 100",
  "1 2 4b00 1 1 109 31 7 100 1 7 4b00 1 1 100 1 0 4b00 1 0 4b07 99 2 4be6 2 0 4b01 1 4 4bdc",
  "1 1 4be6 1 3 4bdc 1 0 4be6 1 0 100 1 6 4b01 5 0 4bdc 7 0 4be6 3 0 100 1 1 4be6 c7 1 4be6",
  "1 0 4bdc 1 6 4be6 1 0 4bdc 1 1 4be6 1 0 4bea 1 0 4bd6 1 0 4bdc 1 0 4bca 1 24 4be6 1 0 4be8",
  "1 1 4be4 1 0 4bdc 1 0 4bda 1 0 4be6 1 0 4be9 1 0 4bdc 1 0 4be6 1 0 4bdc 20d b5 800 f 1 4be6",
  "1 1 4b01 1 3 4be6 1 2 4b01 1 1 4be6 1 3 4b00 1 0 4be6 1 2 4b00 1 1 4b01 1 0 4be6 1 0 4bdc",
  "1 0 4be6 1 1 4b01 1 3 4bdc 1 0 4be6 14 49 800 3d 1ab 800 46 19 800 2 315 800 2 152 800",
  "101 2ff 800 e6 5 800 5 2 4be6 8 6 800 80 0 4b09 61 1f 4be6 1 204 800 4 18 800 a 0 4bda",
  "1 0 4be4 1 0 4be8 1 0 4bde 1 1 1e0 1 0 800 7 0 800 6 2 800 5a 1 4b08 6 0 800 5b 0 800",
  "c5 25 800 1bdb 3f 800 5691 36 800 147 2 800 60 0 4be6 1 2 4b00 1 0 800 1 9 4be6 1 1 800",
  "1f 1 4be6 51 1 4be6 f 21 800 67 0 800 7a 0 4b00 4 0 4b09 5 0 4b00 18 1 100 1 1 4b00 1 0 100",
  "1 3 800 1 0 4b09 c 1 800 7 31 1000 1 0 3000 2 3 800 9 1 100 33 f 100 1 0 4b09 1 0 4b00",
  "1b 11 4be6 e 0 4b00 27 4 4b00 1 2 4bdc 1a a 4b00 1 0 100 1 0 109 2d 2 4b00 1 0 100 30 0 4b07",
  "1 1 100 1 3 4b00 1 1 100 1 1 4b00 1 1 100 1 0 109 25 0 4b00 44 5 4b00 1 1 100 1 1 4b00 1 1 100",
  "1 1 4b00 d 0 4b00 9 0 4b00 1 0 100 2e 0 100 1 0 4b00 1 0 100 33 0 4be6 2 1 4be6 1 0 4bdc",
  "3 1 4be6 6 1 4be6 2 0 4be6 2a 0 100 1 1 4b00 1 1 100 6 0 100 1 0 4b09 74 1 800 78 1 100",
  "1 0 4b00 1 1 100 1 0 4b00 1 1 100 2 0 100 1 0 4b09 4f31 0 4b1a 94 10 200 1 23c 800 21 6 4be6",
  "1 6 4bdc 1 1 4be6 16 1 800 2d 0 200 28e 0 800 3f 4c 800 4 10 800 5d 0 4bdc e3 0 4bdc 1 1a 600",
  "7b 4 4be6 486 11b 200 4 0 800 1 e0 200 1 b 4b00 1 0 4bdc 1 0 4b00 1 0 4be6 1 25 200 3 0 4be6",
  "1 0 4b01 1 0 4bdc 5 0 4b09 1 5f 200 21 4 1200 1 0 2200 1 0 200 1 0 2200 1 0 200 1 1 2200",
  "1 1 200 1 0 3200 1 4 2200 1 3 1200 1 0 3200 1 4 1200 1 0 2200 1 2 1200 1 0 2200 1 1 200",
  "1 0 2200 1 0 4be6 1 0 4bdc 5 3 1200 1 0 2200 1 45 200 4 6 800 1 3f 200 1 0 1200 1 0 2200",
  "1 0 1200 1 2 2200 1 2 1200 1 0 2200 1 1 1200 1 0 2200 1 0 1200 1 1 2200 1 0 1200 1 0 2200",
  "8 3 200 d 3 2200 1 1 1200 1 150 200 1 0 3200 1 20 1200 1 0 2200 1 0 1200 1 3 4be6 9 19 400",
  "1 5 200 1a 4 4be6 1 0 800 1 20 200 d1 1e 400 2 29 200 2 1 4be6 1 4 200 11 0 2200 1 1 1200",
  "1 0 200 1 1 1200 9 8 800 22 1 4bdc 1 0 4b00 1 2 4bdc 1 27 200 9 2 1200 1 0 2200 1 10 1200",
  "1 0 200 1 1 4bdc 1 2 4be6 1 0 4bdc 1 0 4be6 1 3 4bdc 1 2 1200 1 0 2200 1 4 200 17 3 1200",
  "1 1 2200 1 b 1200 1 0 4be6 1 0 4bdc 1 0 4be6 1 0 4bdc 1 3 200 27 0 1200 1 0 200 1 1 1200",
  "1 2 2200 1 0 200 1 0 1200 1 1 2200 1 1 1200 1 0 2200 1 1 1200 1 0 200 1 0 1200 1 1 2200",
  "1 0 1200 1 3 200 1 0 2200 1 0 1200 1 0 3200 15 16 200 a 0 100 1 0 4b00 1 0 100 36 d 4b00",
  "1 0 4b09 c 13 800 b 0 4b09 3 1 4b00 b 0 4b09 1 1 4b00 1 0 100 2e 2 100 1 3 4b00 1 1 100",
  "1 0 4b09 1 0 4b07 8 0 4b00 3e 2 4be6 25 4 4b00 1 0 100 1 5 4b00 1 1 4b09 11 1 100 2d 0 4b07",
  "d 1 4b00 1 0 100 31 2 100 1 8 4b00 1 0 100 1 0 109 9 0 4b00 1 0 4b07 1 1 4b00 2 0 100 1 0 4b00",
  "5d 2 100 1 2 4b00 1 1 100 1 0 4b00 1 0 109 1 0 4b07 1 0 4b00 7 0 4b00 3 0 4b00 9e 0 4b00",
  "1 2 100 1 5 4b00 1 0 4b07 1 0 4b09 16 1 4b00 1 1 100 38 1 4b07 2 1 100 1 0 4b00 1 b 100",
  "1 0 109 a 0 100 b 1 100 3 e 4be6 44 2 100 1 5 4b00 2 b 100 1 0 4b09 1 0 109 1 0 4b09 2 0 4b00",
  "f 1 4b00 53 2 100 1 7 4b00 1 1 100 1 0 4b09 1 1 4b00 1 0 100 1 0 4b07 18 0 4be6 52 2 100",
  "1 5 4b00 1 0 100 1 0 4b00 1 3 100 1 1 4b00 1 0 100 1 0 4b09 1 0 4b07 ec 2 100 1 3 4b00 3 3 100",
  "1 1 4b00 1 0 100 1 0 4b09 1 0 4b07 1c 1 4b00 53 2 100 1 7 4b00 1 1 100 1 0 4b00 1 0 100",
  "1 0 4b09 1 0 4b00 20 c 800 3f 0 4b00 1 0 100 1 0 4b00 1 1 100 1 5 4b00 1 0 109 1 0 4b07",
  "66 0 4b00 1 0 100 1 0 4b00 1 1 100 1 3 4b00 1 0 100 1 3 4b00 1 0 4b09 101 2 100 1 8 4b00",
  "1 0 100 1 0 4b09 1 0 4b07 f6 8 100 3 1 4b00 1 0 109 1 0 4b09 2 0 100 2 0 100 1 0 4b07 8e 2 100",
  "1 7 4b00 1 3 100 1 0 4b09 4 0 100 1d 5 4b00 1 1 4100 1 1 4b00 29 0 4b00 1 0 4b09 1 3 4b00",
  "1 0 100 2 3 4b00 9 0 4b09 a 5 4b00 1 1 100 1 2 4b00 2f c 4b00 1 0 100 1 0 4b00 1 0 4b09",
  "c7 0 4b00 1 0 100 1 2 4b00 1 0 100 1 0 4b00 1 0 100 c8 0 100 1 d 4b00 1 0 100 1 0 4109",
  "53 15 4b00 2 0 100 1 6 4b00 1 0 100 1 1 4b00 1 0 100 1 1 4b00 7b 10 4b00 1 0 4b07 1 0 4b00",
  "1 1 4b09 2 0 4b00 43 4 100 2 1 4b00 2 1 100 1 0 4b00 1 0 100 1 0 4b09 15c 1 4b00 1 1 100",
  "a 1 4b00 2 0 100 31 1 100 1 4 4b00 4 1 100 1 0 4b00 1 0 109 1 0 4b09 18 0 4b00 7b 1c 800",
  "144f 0 4b00 7 e 4b00 2cc9 b 4b00 1 2 100 1 1 4b00 1 0 4b09 9c1 4 4b01 3c 6 4be6 419 0 4b00",
  "2 36 100 8 3 4b00 50 0 800 2 0 4b00 c 1 106 4cac 0 4b00 1 0 4b01 f62 2ff 800 1 46 4b00",
  "21f 1 1d8 1 2 4b01 4 0 1e2 1 4 1d8 9 7 4bdc 3 4 4be6 1 1 4bdc 1f 3 4be6 3c 58 800 1 2 4be6",
  "1 0 800 bb 56 800 6aa 36 4b00 5 31 4b00 9 0 4b00 f 0 4b00 17 14 4b00 51 ff 800 401 8f 4be6",
  "a1 6 4be6 178 0 4be6 3e 3 4be6 10 0 800 1ed 1 4be8 1 0 4bdc 1 0 4be6 ff 0 4be6 1 0 4bdc",
  "f4 0 4be6 3 0 4be6 8 1 4be6 6 0 4be6 10b cf 200 1 6 4bdc 4c 21 1200 1 5 4be6 1 0 4b07 1 0 4200",
  "5 3ed 200 1b3 23f 800 3e 2 800 3e 0 800 b3 99a 800"]

def traitRanges : List Range := Range.ofLines traitLines

end NodeCall.Text
