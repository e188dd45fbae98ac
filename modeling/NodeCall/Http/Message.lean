import NodeCall.Http.Endpoint

/-!
# HTTP messages

The bytes of a POST, and what the bytes that come back for it amount to.  The body of an answer
ends after the announced number of bytes, with an empty chunk, or with the connection.
-/

namespace NodeCall.Http

def line (s : List Char) : List UInt8 := Text.Utf8.encode s ++ [13, 10]

def headerLines (headers : List (String × String)) : List UInt8 :=
  headers.flatMap fun (name, value) => line (name.toList ++ ':' :: ' ' :: value.toList)

def Post.bytes (post : Post) : List UInt8 :=
  let body := Text.Utf8.encode post.body.toList
  line ("POST ".toList ++ post.url.target ++ " HTTP/1.1".toList) ++
    headerLines (("host", String.ofList post.url.hostText) :: ("accept", "*/*") ::
      ("content-length", toString body.length) :: ("connection", "close") :: post.headers) ++
    line [] ++ body

def takeLine : List UInt8 → Option (List UInt8 × List UInt8)
  | [] => none
  | 13 :: 10 :: rest => some ([], rest)
  | b :: rest => (takeLine rest).map fun (line, after) => (b :: line, after)

theorem length_takeLine {bytes line rest : List UInt8} (h : takeLine bytes = some (line, rest)) :
    rest.length < bytes.length := by
  fun_induction takeLine bytes generalizing line rest with
  | case1 => simp at h
  | case2 after =>
    obtain ⟨-, rfl⟩ : [] = line ∧ after = rest := by simpa using h
    simp only [List.length_cons]
    omega
  | case3 b after _ ih =>
    obtain ⟨⟨l, r⟩, hr, he⟩ := Option.map_eq_some_iff.1 h
    obtain ⟨-, rfl⟩ : b :: l = line ∧ r = rest := by simpa using he
    have := ih hr
    simp only [List.length_cons]
    omega

def header (line : List UInt8) : String × String :=
  let chars := Text.Utf8.decode line
  let name := chars.takeWhile (· ≠ ':')
  ((String.ofList name).toLower, String.ofList (Text.trim (chars.drop (name.length + 1))))

def takeHeaders (bytes : List UInt8) : Option (List (String × String) × List UInt8) :=
  match _h : takeLine bytes with
  | none => none
  | some ([], rest) => some ([], rest)
  | some (line, rest) => do
    let (headers, after) ← takeHeaders rest
    return (header line :: headers, after)
termination_by bytes.length
decreasing_by exact length_takeLine _h

structure Head where
  status : UInt16
  headers : List (String × String)

def status? (line : List UInt8) : Option UInt16 :=
  match Text.Form.splitOn ' ' (Text.Utf8.decode line) with
  | version :: code :: _ =>
    if "HTTP/1.".toList.isPrefixOf version && code.length = 3 then
      match Decimal.word 10 code with
      | .ok n => some n.toUInt16
      | .error _ => none
    else none
  | _ => none

/-- A first part of bytes: it is there with what follows it, is still to come, or never comes. -/
inductive Taken (α : Type)
  | done (part : α) (rest : List UInt8)
  | more
  | wrong

def takeHead (bytes : List UInt8) : Taken Head :=
  match takeLine bytes with
  | none => .more
  | some (line, rest) =>
    match status? line, takeHeaders rest with
    | none, _ => .wrong
    | some _, none => .more
    | some status, some (headers, after) => .done ⟨status, headers⟩ after

def takeChunks : Nat → List UInt8 → Taken (List UInt8)
  | 0, _ => .more
  | fuel + 1, bytes =>
    match takeLine bytes with
    | none => .more
    | some (line, rest) =>
      match Decimal.word 16 ((Text.Utf8.decode line).takeWhile (· ≠ ';')) with
      | .error _ => .wrong
      | .ok size =>
        let n := size.toNat
        if n = 0 then .done [] rest
        else if rest.length < n + 2 then .more
        else
          match takeChunks fuel (rest.drop (n + 2)) with
          | .done body after => .done (rest.take n ++ body) after
          | other => other

/-- The body of an answer with the given headers; one that is not announced ends with the
connection. -/
def takeBody (headers : List (String × String)) (ended : Bool) (bytes : List UInt8) :
    Taken (List UInt8) :=
  if (headers.lookup "transfer-encoding").any (·.toLower.endsWith "chunked") then
    takeChunks bytes.length bytes
  else
    match headers.lookup "content-length" with
    | none => if ended then .done bytes [] else .more
    | some length =>
      match Decimal.word 10 length.toList with
      | .error _ => .wrong
      | .ok n => if bytes.length < n.toNat then .more else .done (bytes.take n.toNat) []

/-- What the bytes that have come in so far deliver; nothing yet if more may come. -/
def delivery? (ended : Bool) (bytes : List UInt8) : Option Delivery :=
  match takeHead bytes with
  | .wrong => some (.lost (.broken "invalid HTTP answer"))
  | .more => if ended then some (.lost (.broken "connection closed before an answer")) else none
  | .done head rest =>
    let answer := Delivery.answer head.status (head.headers.lookup "retry-after")
    match takeBody head.headers ended rest with
    | .done body _ => some (answer (.ok ⟨body⟩))
    | .wrong => some (answer (.error (.broken "invalid HTTP body")))
    | .more =>
      if ended then some (answer (.error (.broken "connection closed before the end of the body")))
      else none

end NodeCall.Http
