import AcceleratorHealth.Assessment
import AcceleratorHealth.Lib.Json

/-! The explanation of an assessment, as text and as an object assembled by hand. Quotes
and most control characters go into its strings as they are, and the members `reasons` and
`digest` have no comma between them. -/
namespace AcceleratorHealth
open Json

def escapeChar (ch : UInt8) : Str :=
  if ch = quote then [quote]
  else if ch = backslash then [backslash, backslash]
  else if ch = 0x0A then [backslash, 0x6E]
  else if ch = 0x0D then [backslash, 0x72]
  else if ch = 0x09 then [backslash, 0x74]
  else [ch]

/-- `to_json_str`. -/
def toJsonStr (s : Str) : Str := quote :: (s.flatMap escapeChar ++ [quote])

section Escaping

/-- What `toJsonStr` escapes as a string literal needs it. -/
def Escapable (b : UInt8) : Prop :=
  b ≠ quote ∧ (b < 0x20 → b = 0x0A ∨ b = 0x0D ∨ b = 0x09)

instance (b : UInt8) : Decidable (Escapable b) := by
  unfold Escapable
  infer_instance

/-- A character stands for itself, or as a backslash and the letter of a short escape. -/
theorem escapeChar_cases (b : UInt8) :
    (escapeChar b = [b] ∧ b ≠ backslash) ∨
      ∃ c, escapeChar b = [backslash, c] ∧ shortEscape c = some b ∧ c ≠ 0x75 := by
  unfold escapeChar
  repeat' split
  · next h => exact .inl ⟨by rw [h], by rw [h]; decide⟩
  · next h => exact .inr ⟨backslash, rfl, by rw [h]; rfl, by decide⟩
  · next h => exact .inr ⟨0x6E, rfl, by rw [h]; rfl, by decide⟩
  · next h => exact .inr ⟨0x72, rfl, by rw [h]; rfl, by decide⟩
  · next h => exact .inr ⟨0x74, rfl, by rw [h]; rfl, by decide⟩
  · next h _ _ _ => exact .inl ⟨rfl, h⟩

/-- Two texts that begin with the escapes of characters begin with the same character. -/
theorem escapeChar_prefix {b c : UInt8} {s t : Str} (h : escapeChar b ++ s = escapeChar c ++ t) :
    b = c ∧ s = t := by
  obtain ⟨hb, hb'⟩ | ⟨b', hb, hb', -⟩ := escapeChar_cases b <;>
    obtain ⟨hc, hc'⟩ | ⟨c', hc, hc', -⟩ := escapeChar_cases c <;> rw [hb, hc] at h
  · simpa using h
  · exact absurd (List.cons.inj h).1 hb'
  · exact absurd (List.cons.inj h).1.symm hc'
  · simp only [List.cons_append, List.nil_append, List.cons.injEq, true_and] at h
    obtain ⟨rfl, rfl⟩ := h
    exact ⟨Option.some.inj (hb'.symm.trans hc'), rfl⟩

theorem flatMap_escapeChar_injective : Function.Injective fun s : Str => s.flatMap escapeChar := by
  have hempty : ∀ b s, [] ≠ escapeChar b ++ s := by
    intro b s
    obtain ⟨h, -⟩ | ⟨c, h, -⟩ := escapeChar_cases b <;> simp [h]
  intro s
  induction s with
  | nil =>
    intro t h
    cases t with
    | nil => rfl
    | cons c t => exact absurd h (hempty c _)
  | cons b s ih =>
    intro t h
    cases t with
    | nil => exact absurd h.symm (hempty b _)
    | cons c t =>
      obtain ⟨rfl, hrest⟩ := escapeChar_prefix h
      rw [ih hrest]

theorem toJsonStr_injective : Function.Injective toJsonStr := by
  intro s t h
  exact flatMap_escapeChar_injective (List.append_cancel_right (List.cons.inj h).2)

theorem foldlM_escapeChar (b : UInt8) (ps : List Piece) :
    (escapeChar b).foldlM Content.step (.plain ps) =
      if Escapable b then some (.plain (ps ++ [.byte b])) else none := by
  unfold escapeChar
  repeat' split
  · next h hplain => exact absurd h hplain.1
  · rfl
  · next h _ => rw [h]; rfl
  · next h hnot => exact absurd (by rw [h]; decide) hnot
  · next h _ => rw [h]; rfl
  · next h hnot => exact absurd (by rw [h]; decide) hnot
  · next h _ => rw [h]; rfl
  · next h hnot => exact absurd (by rw [h]; decide) hnot
  · next h _ => rw [h]; rfl
  · next h hnot => exact absurd (by rw [h]; decide) hnot
  · next hquote hslash hline hreturn htab hplain =>
    have hcontrol : ¬ b < 0x20 := fun hlt => by
      obtain h | h | h := hplain.2 hlt
      · exact hline h
      · exact hreturn h
      · exact htab h
    rw [List.foldlM_cons, Content.step_plain ⟨hslash, hquote, hcontrol⟩]
    rfl
  · next hquote hslash hline hreturn htab hnot =>
    have hcontrol : b < 0x20 := by
      by_contra hge
      exact hnot ⟨hquote, fun hlt => absurd hlt hge⟩
    have hstep : (Content.plain ps).step b = none := by simp [Content.step, hslash, hcontrol]
    rw [List.foldlM_cons, hstep]
    rfl

theorem foldlM_flatMap_escapeChar (s : Str) (ps : List Piece) :
    (s.flatMap escapeChar).foldlM Content.step (.plain ps) =
      if ∀ b ∈ s, Escapable b then some (.plain (ps ++ s.map .byte)) else none := by
  induction s generalizing ps with
  | nil => simp
  | cons b s ih =>
    rw [List.flatMap_cons, List.foldlM_append, foldlM_escapeChar]
    simp only [List.forall_mem_cons]
    by_cases hb : Escapable b
    · simp [hb, ih]
    · simp [hb]

theorem unescape_flatMap_escapeChar (s : Str) :
    unescape (s.flatMap escapeChar) = if ∀ b ∈ s, Escapable b then some s else none := by
  unfold unescape
  rw [foldlM_flatMap_escapeChar]
  by_cases h : ∀ b ∈ s, Escapable b
  · rw [if_pos h, if_pos h, List.nil_append]
    exact congrArg some (spell_map_byte s)
  · rw [if_neg h, if_neg h]

theorem isLiteral_toJsonStr_iff (s : Str) :
    IsLiteral (toJsonStr s) s ↔ ∀ b ∈ s, Escapable b := by
  constructor
  · rintro ⟨body, hbody, h⟩
    rw [← List.append_cancel_right (List.cons.inj hbody).2, unescape_flatMap_escapeChar] at h
    by_contra hnot
    rw [if_neg hnot] at h
    cases h
  · intro h
    exact ⟨_, rfl, by rw [unescape_flatMap_escapeChar, if_pos h]⟩

/-- A literal for `s`, and one that a reader leaves right behind its last quote. -/
def Faithful (s : Str) : Prop :=
  IsLiteral (toJsonStr s) s ∧
    ∀ rest, Mode.between.run (toJsonStr s ++ rest) =
      (Mode.between.run rest).map fun r => (.string s :: r.1, r.2)

end Escaping

/-- A literal is faithful where the string has no quote and no control character besides the
escaped ones, and no other string has the same literal. -/
theorem toJsonStr_faithful_iff (s : Str) :
    (Faithful s ↔ ∀ b ∈ s, Escapable b) ∧ ∀ t, toJsonStr s = toJsonStr t → s = t := by
  refine ⟨?_, fun t h => toJsonStr_injective h⟩
  rw [← isLiteral_toJsonStr_iff]
  exact ⟨fun h => h.1, fun h => ⟨h, h.run_append⟩⟩

/-- A reason with a quote leaves its literal. -/
theorem quoted_not_faithful : ¬ ∀ s, Faithful s := by
  intro h
  have hquoted := (isLiteral_toJsonStr_iff _).mp (h (str "say \"ok\"")).1 quote
  revert hquoted
  decide +kernel

structure Diagnosis where
  text : Str
  json : Str
  digest : Str

def StrongId.string {Tag : Type} (i : StrongId Tag) : Str := str (toString i.value.toNat)

namespace HealthAssessment

section Explain
-- `number` prints a confidence; its digits come from the stream library.
variable (number : Binary32 → Str)

def addKey (k : String) : Str := quote :: (str k ++ [quote, 0x3A])

def explainText (a : HealthAssessment) : Str :=
  List.flatten [str "accelerator=", a.accelerator.string, str "\n",
    str "health=", str (enumToString a.state), str "\n",
    str "readiness=", str (enumToString a.readiness), str "\n",
    str "validationDepth=", str (enumToString a.validationDepth), str "\n",
    str "confidence=", number a.confidence, str "\n",
    str "action=", str (enumToString a.action), str "\n",
    str "reasons:\n"] ++
  a.reasons.flatMap fun r => str "  - " ++ r ++ str "\n"

/-- The members before `digest`, all but the bracket that closes the reasons. -/
def explainMembers (a : HealthAssessment) : Str :=
  List.flatten [str "\x7b",
    addKey "accelerator", toJsonStr a.accelerator.string, str ",",
    addKey "uuid", toJsonStr a.uuid.string, str ",",
    addKey "health", toJsonStr (str (enumToString a.state)), str ",",
    addKey "readiness", toJsonStr (str (enumToString a.readiness)), str ",",
    addKey "validationDepth", toJsonStr (str (enumToString a.validationDepth)), str ",",
    addKey "confidence", number a.confidence, str ",",
    addKey "action", toJsonStr (str (enumToString a.action)), str ",",
    addKey "executionReady", if a.executionReady then str "true" else str "false", str ",",
    addKey "quarantined", if a.quarantined then str "true" else str "false", str ",",
    addKey "reasons", str "[", (str ",").intercalate (a.reasons.map toJsonStr)]

def explain (a : HealthAssessment) : Diagnosis where
  text := a.explainText number
  json := a.explainMembers number ++
    List.flatten [str "]", addKey "digest", toJsonStr a.digest, str "\x7d"]
  digest := a.digest

end Explain

section WellFormed

/-- The members an explanation has, with the assessment's values. -/
def members (a : HealthAssessment) : List (Str × Json) :=
  [(str "accelerator", .string a.accelerator.string), (str "uuid", .string a.uuid.string),
    (str "health", .string (str (enumToString a.state))),
    (str "readiness", .string (str (enumToString a.readiness))),
    (str "validationDepth", .string (str (enumToString a.validationDepth))),
    (str "action", .string (str (enumToString a.action))),
    (str "executionReady", .bool a.executionReady), (str "quarantined", .bool a.quarantined),
    (str "reasons", .array (a.reasons.map .string)), (str "digest", .string a.digest)]

/-- One JSON object, whose members parse back to the assessment's values. -/
def Explained (number : Binary32 → Str) (a : HealthAssessment) : Prop :=
  ∃ members, Text (a.explain number).json (.object members) ∧
    ∀ m ∈ a.members, members.lookup m.1 = some m.2

theorem settles_escapeChar (b : UInt8) : Settles (escapeChar b) := by
  obtain ⟨h, hb⟩ | ⟨c, h, -, hc⟩ := escapeChar_cases b
  · rw [h]
    exact .singleton hb
  · rw [h]
    exact .escape hc

theorem settles_toJsonStr (s : Str) : Settles (toJsonStr s) := by
  have hquote : Settles [quote] := .singleton (by decide)
  have hbody : Settles (s.flatMap escapeChar) := by
    rw [List.flatMap_def]
    refine .flatten fun t ht => ?_
    obtain ⟨b, -, rfl⟩ := List.mem_map.mp ht
    exact settles_escapeChar b
  exact hquote.append (hbody.append hquote)

theorem settles_addKey {k : String} (h : backslash ∉ str k) : Settles (addKey k) := by
  refine .of_not_mem fun hmem => ?_
  simp only [addKey, List.mem_cons, List.mem_append, List.not_mem_nil, or_false] at hmem
  obtain hq | hk | hq | hcolon := hmem
  · exact absurd hq (by decide)
  · exact h hk
  · exact absurd hq (by decide)
  · exact absurd hcolon (by decide)

theorem settles_explainMembers {number : Binary32 → Str} (hnumber : ∀ x, isNumber (number x))
    (a : HealthAssessment) : Settles (a.explainMembers number) := by
  have hbool : ∀ b : Bool, Settles (if b then str "true" else str "false") := by
    intro b
    cases b
    · exact .of_not_mem (by decide +kernel)
    · exact .of_not_mem (by decide +kernel)
  have hcomma : Settles (str ",") := .of_not_mem (by decide +kernel)
  have hreasons : Settles ((str ",").intercalate (a.reasons.map toJsonStr)) := by
    refine .intercalate hcomma fun t ht => ?_
    obtain ⟨r, -, rfl⟩ := List.mem_map.mp ht
    exact settles_toJsonStr r
  have hconfidence : Settles (number a.confidence) :=
    .of_not_mem (backslash_not_mem_of_isNumber (hnumber _))
  have hopen : Settles (str "\x7b") ∧ Settles (str "[") :=
    ⟨.of_not_mem (by decide +kernel), .of_not_mem (by decide +kernel)⟩
  refine .flatten ?_
  simp only [List.forall_mem_cons]
  repeat' apply And.intro
  all_goals first
    | exact settles_toJsonStr _
    | exact settles_addKey (by decide +kernel)
    | assumption
    | exact hbool _
    | exact hopen.1
    | exact hopen.2
    | exact nofun

theorem not_text_explain {number : Binary32 → Str} (hnumber : ∀ x, isNumber (number x))
    (a : HealthAssessment) (v : Json) : ¬ Text (a.explain number).json v := by
  have hbracket : str "]" = [0x5D] := by decide +kernel
  have hjson : (a.explain number).json = a.explainMembers number ++
      0x5D :: quote :: (str "digest" ++ quote :: (0x3A :: (toJsonStr a.digest ++ str "\x7d"))) := by
    simp [explain, addKey, hbracket]
  rw [hjson]
  exact not_text_of_settles (a.settles_explainMembers hnumber) (by decide +kernel)
    (by decide +kernel) (by decide +kernel) _ v

end WellFormed

/-- The comma is missing in every explanation. -/
theorem not_explained {number : Binary32 → Str} (hnumber : ∀ x, isNumber (number x))
    (a : HealthAssessment) : ¬ a.Explained number := by
  rintro ⟨members, htext, -⟩
  exact a.not_text_explain hnumber _ htext

/-- Of a healthy device. -/
def nominal : HealthAssessment where
  accelerator := ⟨1⟩
  uuid := ⟨11⟩
  state := .healthy
  readiness := .ready
  validationDepth := .full
  confidence := .one
  action := .none
  executionReady := true
  reasons := [str "all evidence nominal and fresh"]
  digest := str "ah-01"

theorem not_explained_nominal : ¬ nominal.Explained fun _ => str "1" :=
  not_explained (fun _ => by decide +kernel) nominal

/-- Valid UTF-8. -/
def IsUtf8 (s : Str) : Prop := ∃ t : String, str t = s

theorem nominal_not_explained :
    ¬ ∀ number : Binary32 → Str, (∀ x, isNumber (number x)) →
      ∀ a : HealthAssessment, (∀ r ∈ a.reasons, IsUtf8 r) → IsUtf8 a.digest →
        a.Explained number := by
  intro h
  have hreasons : ∀ r ∈ nominal.reasons, IsUtf8 r := by
    intro r hr
    exact ⟨_, (List.mem_singleton.mp hr).symm⟩
  obtain ⟨members, ⟨ts, hts, hvalue⟩, -⟩ :=
    h (fun _ => str "1") (fun _ => by decide +kernel) nominal hreasons ⟨_, rfl⟩
  have htokens : (tokens (nominal.explain fun _ => str "1").json).map (·.drop 41) =
      some [.closeBracket, .string (str "digest"), .colon, .string (str "ah-01"), .closeBrace] := by
    decide +kernel
  rw [hts, Option.map_some, Option.some_inj] at htokens
  have hchain := hvalue.isChain.drop 41
  rw [htokens] at hchain
  exact hchain.rel ⟨rfl, _, rfl⟩

end HealthAssessment
end AcceleratorHealth
