import NodeCall.Proofs.Rpc.RoundTrip

/-!
# What a response counts as once it has been read

A response made of a result is taken for a success when it is made, and one made of an error for a
failure.  After the way through its text the failure is still one.  The success is one unless its
result is `null`: that member counts as left out, so the response has neither a result nor an error,
although unwrapping it gives `null` as before.
-/

namespace NodeCall

open Json (Place)
open Json.Document (Source)

/-! ### Errors -/

namespace NodeError

variable {error : NodeError} {depth : Nat}

theorem decode_of_data {data : Json} (there : error.data = some data) :
    decode (Place.mk (depth + 1) error.envelope.tree) =
      (Json.decodeOption Source.value (Place.mk depth data.tree)).map
        fun data => { error with data } := by
  obtain ⟨code, message, _⟩ := error
  cases there
  have stored : schema.store "data" (Place.mk depth data.tree) ⟨some code, some message, none⟩ =
      (Json.decodeOption Source.value (Place.mk depth data.tree)).map
        fun data => Draft.mk (some code) (some message) (some data) := rfl
  show (schema.decode Draft.empty (Place.mk (depth + 1) (Json.object
    ([("code", .number (.ofInt64 code)), ("message", .string message)] ++
      [("data", data)])).tree)).map Draft.error = _
  rw [(takes_head depth code message).decode_last (by decide) rfl, stored]
  · cases Json.decodeOption Source.value (Place.mk depth data.tree) <;> rfl
  · intro last eq
    rw [stored] at eq
    obtain ⟨_, -, rfl⟩ := map_eq_ok.mp eq
    rfl

theorem decode_of_no_data (none : error.data = none) :
    decode (Place.mk (depth + 1) error.envelope.tree) = .ok error.withoutNull := by
  refine decode_envelope fun v there => ?_
  rw [none] at there
  cases there

/-- An error that is read at all is read with its code and its message. -/
theorem decode_keeps {e : NodeError}
    (decoded : decode (Place.mk (depth + 1) error.envelope.tree) = .ok e) :
    e.code = error.code ∧ e.message = error.message := by
  cases there : error.data with
  | none =>
    rw [decode_of_no_data there] at decoded
    cases decoded
    exact ⟨rfl, rfl⟩
  | some data =>
    rw [decode_of_data there] at decoded
    obtain ⟨_, -, rfl⟩ := map_eq_ok.mp decoded
    exact ⟨rfl, rfl⟩

theorem decode_isOk (within : depth ≤ Json.maxDepth) :
    (∃ e, decode (Place.mk (depth + 1) error.envelope.tree) = .ok e) ↔
      ∀ data, error.data = some data →
        data.depth ≤ depth ∧ ∃ w, Json.ofText data.text = .ok w := by
  cases there : error.data with
  | none => exact ⟨fun _ => nofun, fun _ => ⟨_, decode_of_no_data there⟩⟩
  | some data =>
    have readable : (∃ w, data.tree.value depth = .ok w) ↔
        data.depth ≤ depth ∧ ∃ w, Json.ofText data.text = .ok w := by
      simp only [Json.value_eq_ok_iff within, exists_and_left]
    simp only [decode_of_data there, map_eq_ok, Option.some.injEq, forall_eq']
    rw [← readable, ← Json.decodeOption_value_isOk]
    exact ⟨fun ⟨_, r, read, _⟩ => ⟨r, read⟩, fun ⟨r, read⟩ => ⟨_, r, read, rfl⟩⟩

end NodeError

/-! ### Responses -/

namespace Response

variable {depth : Nat} {id : RpcId} {v : Json} {error : NodeError} {response : Response}

/-- A response with one member besides its version and its id is what this member makes of it. -/
theorem decode_of_last (id : RpcId) {name : String} (known : name ∈ schema (τ := Place).fields)
    (unset : Draft.isSet name ⟨some protocolVersion, some id, none, none, none, none⟩ = false) :
    decode (Place.mk (depth + 1) (Json.object ([("jsonrpc", .string protocolVersion),
        ("id", id.toJson)] ++ [(name, v)])).tree) =
      (Draft.store name (Place.mk depth v.tree)
        ⟨some protocolVersion, some id, none, none, none, none⟩).map Draft.response := by
  rw [decode, (takes_head depth protocolVersion id).decode_last known unset fun _ _ => rfl]
  rfl

theorem decode_success (id : RpcId) (v : Json) :
    decode (Place.mk (depth + 1) (success id v).envelope.tree) =
      (Json.decodeOption Source.value (Place.mk depth v.tree)).map
        fun result => { success id v with result } := by
  refine (decode_of_last id (by decide) rfl).trans ?_
  show ((Json.decodeOption Source.value (Place.mk depth v.tree)).map _).map _ = _
  cases Json.decodeOption Source.value (Place.mk depth v.tree) <;> rfl

theorem decode_failure (id : RpcId) (error : NodeError) :
    decode (Place.mk (depth + 1) (failure id error).envelope.tree) =
      (NodeError.decode (Place.mk depth error.envelope.tree)).map (failure id) := by
  refine (decode_of_last id (by decide) rfl).trans ?_
  have object : error.envelope ≠ .null := nofun
  show ((Json.decodeOption NodeError.decode (Place.mk depth error.envelope.tree)).map _).map _ = _
  rw [Json.decodeOption_tree object]
  cases NodeError.decode (Place.mk depth error.envelope.tree) <;> rfl

/-- The members of an envelope that is a text of its own may nest this deep. -/
def memberDepth : Nat := Json.maxDepth - 1

/-- What a response made of a result is read as: the same response, except that the result is
left out if it is `null`. -/
theorem ofText_success_eq_ok :
    ofText (success id v).text = .ok response ↔
      ∃ result, Json.decodeOption Source.value (Place.mk memberDepth v.tree) = .ok result ∧
        response = { success id v with result } := by
  rw [ofText, text, Json.decodeText_text]
  show decode (Place.mk (memberDepth + 1) (success id v).envelope.tree) = _ ↔ _
  rw [decode_success, map_eq_ok]
  exact exists_congr fun _ => and_congr_right fun _ => eq_comm

theorem ofText_failure_eq_ok :
    ofText (failure id error).text = .ok response ↔
      ∃ e, NodeError.decode (Place.mk memberDepth error.envelope.tree) = .ok e ∧
        response = failure id e := by
  rw [ofText, text, Json.decodeText_text]
  show decode (Place.mk (memberDepth + 1) (failure id error).envelope.tree) = _ ↔ _
  rw [decode_failure, map_eq_ok]
  exact exists_congr fun _ => and_congr_right fun _ => eq_comm

/-- Made of a result, a response is a success with that result once it has been read if and only if
the result is not `null` and is read back where it stands, a level down.  A result that is `null`
is read as no result and no success, and unwrapped it is still `null`.  Made of an error, a response
is a failure with the code and the message of the error once it has been read, which it is if and
only if the data of the error can be read two levels down. -/
theorem classified_as_made (id : RpcId) :
    (∀ v : Json,
      (∃ response, ofText (success id v).text = .ok response ∧
          response.isOk = true ∧ response.outcome = .ok v) ↔
        v ≠ .null ∧ v.depth + 1 ≤ Json.maxDepth ∧ Json.ofText v.text = .ok v) ∧
    (∃ response, ofText (success id .null).text = .ok response ∧
      response.isOk = false ∧ response.outcome = .ok .null) ∧
    ∀ error : NodeError,
      ((∃ response, ofText (failure id error).text = .ok response) ↔
        ∀ data, error.data = some data →
          data.depth + 2 ≤ Json.maxDepth ∧ ∃ w, Json.ofText data.text = .ok w) ∧
      ∀ response, ofText (failure id error).text = .ok response →
        response.isOk = false ∧
          ∃ e, response.outcome = .error e ∧ e.code = error.code ∧ e.message = error.message := by
  refine ⟨fun v => ?_, ?_, fun error => ⟨?_, ?_⟩⟩
  · constructor
    · rintro ⟨response, decoded, good, unwrapped⟩
      obtain ⟨result, read, rfl⟩ := ofText_success_eq_ok.mp decoded
      obtain ⟨w, rfl⟩ : ∃ w, result = some w := Option.isSome_iff_exists.mp good
      obtain rfl : w = v := Except.ok.inj unwrapped
      have there : w ≠ .null := by
        rintro rfl
        cases read
      obtain ⟨_, value, ⟨⟩⟩ := (Json.decodeOption_value_of_ne_null there).mp read
      obtain ⟨shallow, alone⟩ := (Json.value_eq_ok_iff (by decide)).mp value
      exact ⟨there, Nat.succ_le_succ shallow, alone⟩
    · rintro ⟨there, shallow, alone⟩
      have value := (Json.value_eq_ok_iff (by decide)).mpr ⟨Nat.le_of_succ_le_succ shallow, alone⟩
      have read := (Json.decodeOption_value_of_ne_null there).mpr ⟨v, value, rfl⟩
      exact ⟨_, ofText_success_eq_ok.mpr ⟨_, read, rfl⟩, rfl, rfl⟩
  · exact ⟨_, ofText_success_eq_ok.mpr ⟨none, rfl, rfl⟩, rfl, rfl⟩
  · have readable := @NodeError.decode_isOk error (memberDepth - 1) (by decide)
    simp only [ofText_failure_eq_ok]
    refine Iff.trans ⟨?_, ?_⟩ (readable.trans ?_)
    · exact fun ⟨_, e, decoded, _⟩ => ⟨e, decoded⟩
    · exact fun ⟨e, decoded⟩ => ⟨_, e, decoded, rfl⟩
    · exact forall₂_congr fun data _ => and_congr_left fun _ => by
        rw [← Nat.add_le_add_iff_right (n := 2)]
        rfl
  · intro response decoded
    obtain ⟨e, read, rfl⟩ := ofText_failure_eq_ok.mp decoded
    exact ⟨rfl, e, rfl, NodeError.decode_keeps read⟩

def busy : NodeError := ⟨-32000, "busy", some (.array [.null])⟩

theorem classified_as_made_false_and_busy :
    (∃ response, ofText (success (.number 7) (.bool false)).text = .ok response ∧
      response.isOk = true ∧ response.outcome = .ok (.bool false)) ∧
    ∃ response, ofText (failure (.text "7") busy).text = .ok response ∧
      response.isOk = false ∧
        ∃ e, response.outcome = .error e ∧ e.code = -32000 ∧ e.message = "busy" := by
  have alone : Json.ofText (Json.bool false).text = .ok (.bool false) :=
    Json.ofText_text_of_plain trivial (by decide)
  have data : Json.ofText (Json.array [.null]).text = .ok (.array [.null]) :=
    Json.ofText_text_of_plain ⟨trivial, trivial⟩ (by decide)
  refine ⟨((classified_as_made (.number 7)).1 _).mpr ⟨nofun, by decide, alone⟩, ?_⟩
  obtain ⟨read, fails⟩ := (classified_as_made (.text "7")).2.2 busy
  obtain ⟨response, decoded⟩ := read.mpr fun
    | _, rfl => ⟨by decide, _, data⟩
  exact ⟨response, decoded, fails response decoded⟩

/-- A response made of `null` is a success until it has been read. -/
theorem null_result_not_ok :
    (success (.number 1) .null).isOk = true ∧
    (success (.number 1) .null).text = "\x7b\"jsonrpc\":\"2.0\",\"id\":1,\"result\":null\x7d" ∧
    ofText (success (.number 1) .null).text =
      .ok ⟨protocolVersion, .number 1, none, none, none, none⟩ ∧
    ¬∃ response, ofText (success (.number 1) .null).text = .ok response ∧
      response.isOk = true ∧ response.outcome = .ok .null := by
  have decoded : ofText (success (.number 1) .null).text =
      .ok ⟨protocolVersion, .number 1, none, none, none, none⟩ :=
    ofText_success_eq_ok.mpr ⟨none, rfl, rfl⟩
  refine ⟨rfl, by decide +kernel, decoded, ?_⟩
  rintro ⟨response, again, good, -⟩
  obtain rfl := Except.ok.inj (decoded.symm.trans again)
  cases good

end Response
end NodeCall
