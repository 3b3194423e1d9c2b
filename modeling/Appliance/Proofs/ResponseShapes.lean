import Appliance.Proofs.DecodedScalars
import Appliance.Proofs.Members
import Appliance.Proofs.ReplyJudgement

/-!
# What bodies are as responses

Every value is classed as a response by its members alone. An error comes before a result: it is a
message alone, or an object or an array that tells a code and a message, where either may be left
out. What tells none of these is a fault of the payload. A body that has neither is its own result.
-/

namespace Appliance

open Json (Distinct Fills fills_cons_iff)

namespace ErrorReport

attribute [ext] ErrorReport

/-- What a value of an error has to be for a report to be told by it. -/
inductive Told : Json → ErrorReport → Prop
  /-- A message alone. -/
  | message (s : String) : Told (.string s) ⟨0, s⟩
  /-- An object, of which the other keys do not matter. -/
  | members (ms : List (String × Json)) (r : ErrorReport)
    (hcode : Fills (fun v c => v = .int c.toInt) (ms.lookup "code") 0 r.code)
    (hmessage : Fills (fun v s => v = .string s) (ms.lookup "message") "" r.message) :
    Told (.object ms) r
  /-- An array of the code and the message in this order. -/
  | items (xs : List Json) (r : ErrorReport) (hlength : xs.length ≤ 2)
    (hcode : Fills (fun v c => v = .int c.toInt) xs[0]? 0 r.code)
    (hmessage : Fills (fun v s => v = .string s) xs[1]? "" r.message) :
    Told (.array xs) r

/-- What a report has become after some members more. -/
structure Gathers (members : List (String × Json)) (r r' : ErrorReport) : Prop where
  code : Fills (fun v c => v = .int c.toInt) (members.lookup "code") r.code r'.code
  message : Fills (fun v s => v = .string s) (members.lookup "message") r.message r'.message

/-- Members are gathered one after another. -/
theorem gathers_cons_iff {m : String × Json} {members : List (String × Json)}
    (h : Distinct (m :: members)) (r r' : ErrorReport) :
    Gathers (m :: members) r r' ↔ ∃ q, Gathers [m] r q ∧ Gathers members q r' := by
  constructor
  · intro hg
    obtain ⟨code, hcode, hcode'⟩ := (fills_cons_iff h _ _ _).mp hg.code
    obtain ⟨message, hmessage, hmessage'⟩ := (fills_cons_iff h _ _ _).mp hg.message
    exact ⟨⟨code, message⟩, ⟨hcode, hmessage⟩, ⟨hcode', hmessage'⟩⟩
  · rintro ⟨q, hq, hr'⟩
    exact ⟨(fills_cons_iff h _ _ _).mpr ⟨_, hq.code, hr'.code⟩,
      (fills_cons_iff h _ _ _).mpr ⟨_, hq.message, hr'.message⟩⟩

/-- One member is read as it is gathered. -/
theorem member_eq_ok_iff (key : String) (v : Json) (r r' : ErrorReport) :
    reader.member key v r = .ok r' ↔ Gathers [(key, v)] r r' := by
  unfold reader
  dsimp only
  by_cases hcode : key = "code"
  · subst hcode
    simp only [if_pos, Json.map_eq_ok_iff, Json.decode_int64_eq_ok_iff]
    constructor
    · rintro ⟨c, hc, rfl⟩
      exact ⟨hc, rfl⟩
    · rintro ⟨hc, hmessage⟩
      exact ⟨r'.code, hc, ErrorReport.ext rfl hmessage.symm⟩
  by_cases hmessage : key = "message"
  · subst hmessage
    simp only [if_neg hcode, if_pos, Json.map_eq_ok_iff, Json.decode_string_eq_ok_iff]
    constructor
    · rintro ⟨s, hs, rfl⟩
      exact ⟨rfl, hs⟩
    · rintro ⟨hc, hs⟩
      exact ⟨r'.message, hs, ErrorReport.ext hc.symm rfl⟩
  · rw [if_neg hcode, if_neg hmessage, Except.ok.injEq]
    have hnoCode : [(key, v)].lookup "code" = none := Json.lookup_singleton_of_ne (Ne.symm hcode)
    have hnoMessage : [(key, v)].lookup "message" = none :=
      Json.lookup_singleton_of_ne (Ne.symm hmessage)
    constructor
    · rintro rfl
      refine ⟨?_, ?_⟩
      · rw [hnoCode]
        rfl
      · rw [hnoMessage]
        rfl
    · rintro ⟨hc, hs⟩
      rw [hnoCode] at hc
      rw [hnoMessage] at hs
      exact ErrorReport.ext hc.symm hs.symm

/-- Members are read as they are gathered. -/
theorem foldlM_member_eq_ok_iff (members : List (String × Json)) (h : Distinct members)
    (r r' : ErrorReport) :
    members.foldlM (fun r (key, v) => reader.member key v r) r = .ok r' ↔ Gathers members r r' := by
  induction members generalizing r with
  | nil =>
    rw [List.foldlM_nil]
    constructor
    · intro hread
      cases hread
      exact ⟨rfl, rfl⟩
    · rintro ⟨hcode, hmessage⟩
      exact congrArg Except.ok (ErrorReport.ext hcode.symm hmessage.symm)
  | cons m members ih =>
    rw [gathers_cons_iff h, List.foldlM_cons, Json.bind_eq_ok_iff]
    simp only [member_eq_ok_iff, ih (List.nodup_cons.mp h).2]

/-- A report is read from no more items than a code and a message. -/
theorem read_array_eq_ok_iff (xs : List Json) (r : ErrorReport) :
    reader.read (.array xs) = .ok r ↔ xs.length ≤ 2 ∧
      Fills (fun v c => v = .int c.toInt) xs[0]? 0 r.code ∧
        Fills (fun v s => v = .string s) xs[1]? "" r.message := by
  obtain ⟨code, message⟩ := r
  match xs with
  | [] =>
    simp [Json.RecordReader.read, Json.RecordReader.ofItems, reader, empty, Fills,
      eq_comm (a := (0 : Int64)), eq_comm (a := "")]
  | [x] =>
    simp [Json.RecordReader.read, Json.RecordReader.ofItems, reader, empty, Fills,
      Json.bind_eq_ok_iff, Json.map_eq_ok_iff, Json.decode_int64_eq_ok_iff,
      eq_comm (a := "")]
  | [x, y] =>
    simp [Json.RecordReader.read, Json.RecordReader.ofItems, reader, Fills, Json.bind_eq_ok_iff,
      Json.map_eq_ok_iff, Json.decode_int64_eq_ok_iff, Json.decode_string_eq_ok_iff]
  | x :: y :: z :: xs =>
    simp [Json.RecordReader.read, Json.RecordReader.ofItems, reader, Json.bind_eq_ok_iff]

/-- A report is read from a value that tells it, unless that is a message alone. -/
theorem decode_eq_ok_iff (v : Json) (hmessage : ∀ s, v ≠ .string s)
    (hkeys : ∀ ms, v = .object ms → Distinct ms) (r : ErrorReport) :
    Json.decode v = .ok r ↔ Told v r := by
  have hread : Json.decode v = reader.read v := rfl
  rw [hread]
  cases v with
  | null | bool _ | number _ =>
    constructor
    · intro h
      cases h
    · intro h
      cases h
  | string s => exact absurd rfl (hmessage s)
  | array xs =>
    rw [read_array_eq_ok_iff]
    constructor
    · rintro ⟨hlength, hcode, hmessage⟩
      exact .items xs r hlength hcode hmessage
    · rintro ⟨⟩
      rename_i hlength hcode hmessage
      exact ⟨hlength, hcode, hmessage⟩
  | object ms =>
    have hmembers := foldlM_member_eq_ok_iff ms (hkeys ms rfl) empty r
    refine hmembers.trans ?_
    constructor
    · rintro ⟨hcode, hmessage⟩
      exact .members ms r hcode hmessage
    · rintro ⟨⟩
      rename_i hcode hmessage
      exact ⟨hcode, hmessage⟩

end ErrorReport

namespace Response

open ErrorReport (Told)

/-- A body carries the id that its member says. -/
theorem idOf_eq_some_iff_lookup (b : Json) (n : UInt32) :
    idOf b = some n ↔ ∃ ms, b = .object ms ∧ ms.lookup "id" = some (.int n.toNat) := by
  rw [idOf_eq_some_iff]
  cases b <;> simp [Json.get?]

/-- A body whose error is a message is read as a report of it. -/
theorem ofJson_of_string {b : Json} {s : String} (h : b.get? "error" = some (.string s)) :
    ofJson b = .ok ⟨idOf b, .error ⟨0, s⟩⟩ := by
  unfold ofJson
  rw [h]

section

variable {b v : Json} (h : b.get? "error" = some v) (hv : ∀ s, v ≠ .string s)

include h hv

/-- A body whose error is no message is read as the report that is read from it. -/
theorem ofJson_of_report {report : ErrorReport} (hread : Json.decode v = .ok report) :
    ofJson b = .ok ⟨idOf b, .error report⟩ := by
  unfold ofJson
  rw [h]
  cases v with
  | string s => exact absurd rfl (hv s)
  | null | bool _ | number _ | array _ | object _ =>
    dsimp only
    rw [hread]

/-- A body whose error is no message and no report has a fault of its payload. -/
theorem ofJson_of_fault {fault : Json.Fault}
    (hread : (Json.decode v : Except Json.Fault ErrorReport) = .error fault) :
    ofJson b = .error (.payload (.ofFault fault)) := by
  unfold ofJson
  rw [h]
  cases v with
  | string s => exact absurd rfl (hv s)
  | null | bool _ | number _ | array _ | object _ =>
    dsimp only
    rw [hread]

end

section

variable {b v : Json} (h : b.get? "error" = some v) (hkeys : ∀ ms, v = .object ms → Distinct ms)

include h hkeys

/-- A body with an error that tells nothing has a fault of its payload. -/
theorem exists_payload_of_not_told (huntold : ∀ report, ¬ Told v report) :
    ∃ fault, ofJson b = .error (.payload fault) := by
  have hv : ∀ s, v ≠ .string s := fun s heq => huntold ⟨0, s⟩ (heq ▸ .message s)
  cases hread : (Json.decode v : Except Json.Fault ErrorReport) with
  | error fault => exact ⟨_, ofJson_of_fault h hv hread⟩
  | ok report =>
    exact absurd ((ErrorReport.decode_eq_ok_iff v hv hkeys report).mp hread) (huntold report)

/-- A body with an error is read as the report that the error tells. -/
theorem ofJson_eq_ok_iff_told (report : ErrorReport) :
    ofJson b = .ok ⟨idOf b, .error report⟩ ↔ Told v report := by
  by_cases hstring : ∃ s, v = .string s
  · obtain ⟨s, rfl⟩ := hstring
    rw [ofJson_of_string h]
    constructor
    · intro hread
      cases hread
      exact .message s
    · rintro ⟨⟩
      rfl
  · have hv : ∀ s, v ≠ .string s := fun s heq => hstring ⟨s, heq⟩
    rw [← ErrorReport.decode_eq_ok_iff v hv hkeys]
    cases hread : (Json.decode v : Except Json.Fault ErrorReport) with
    | error fault => simp [ofJson_of_fault h hv hread]
    | ok told => simp [ofJson_of_report h hv hread]

end

/-- The response that a body is, in whose error no key comes twice, as in no value that is read. It
has the id of the body's member, if that is a number of 32 bits. An error comes before anything
else: it is what its value tells, and a fault of the payload if that tells nothing. Without an error
the reply is the result, null included, or else the body. -/
theorem shape_of_body (b : Json)
    (hkeys : ∀ ms, b.get? "error" = some (.object ms) → Distinct ms) :
    ∃ id : Option UInt32,
      (∀ n, id = some n ↔ ∃ ms, b = .object ms ∧ ms.lookup "id" = some (.int n.toNat)) ∧
      (∀ v, b.get? "error" = some v →
        (∀ report, ofJson b = .ok ⟨id, .error report⟩ ↔ Told v report) ∧
        ((∀ report, ¬ Told v report) → ∃ fault, ofJson b = .error (.payload fault))) ∧
      (b.get? "error" = none → ofJson b = .ok ⟨id, .result ((b.get? "result").getD b)⟩) := by
  refine ⟨idOf b, idOf_eq_some_iff_lookup b, ?_, ?_⟩
  · intro v h
    have hdistinct : ∀ ms, v = .object ms → Distinct ms := fun ms hv => hkeys ms (hv ▸ h)
    exact ⟨ofJson_eq_ok_iff_told h hdistinct, exists_payload_of_not_told h hdistinct⟩
  · intro h
    unfold ofJson
    rw [h]
    cases b.get? "result" <;> rfl

/-- A busy device is told by the code and the message of its error, the other keys of which do not
matter. -/
theorem shape_of_busy_body :
    ofJson (.object
        [("error", .object [("code", .int (-30001)), ("message", .string "busy"), ("more", .null)]),
          ("id", .int 4), ("result", .array [])]) =
      .ok ⟨some 4, .error ⟨-30001, "busy"⟩⟩ := by
  obtain ⟨id, hid, herror, -⟩ := shape_of_body (.object
    [("error", .object [("code", .int (-30001)), ("message", .string "busy"), ("more", .null)]),
      ("id", .int 4), ("result", .array [])]) (by
        intro ms hms
        cases hms
        unfold Distinct
        decide)
  have hfour : id = some 4 := (hid 4).mpr ⟨_, rfl, rfl⟩
  obtain ⟨htold, -⟩ := herror _ rfl
  rw [← hfour]
  exact (htold _).mpr (.members _ _ rfl rfl)

end Response

end Appliance
