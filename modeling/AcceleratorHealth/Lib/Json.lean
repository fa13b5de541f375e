import Mathlib.Data.List.Basic
import Mathlib.Data.List.Chain
import Mathlib.Tactic.Common

/-! JSON over bytes: the contents of a string and its escapes, an automaton that cuts a
text into tokens, and the grammar of values over tokens. -/

/-- A value, its numbers as they are written and its strings unescaped. -/
inductive Json where
  | null
  | bool (b : Bool)
  | number (text : List UInt8)
  | string (s : List UInt8)
  | array (items : List Json)
  | object (members : List (List UInt8 × Json))

namespace Json

def quote : UInt8 := 0x22
def backslash : UInt8 := 0x5C

/-- What a string holds between its quotes: a byte or a UTF-16 unit. -/
inductive Piece where
  | byte (b : UInt8)
  | unit (u : Nat)
  deriving DecidableEq

/-- UTF-8, of lone surrogates too. -/
def utf8 (c : Nat) : List UInt8 :=
  if c < 0x80 then [.ofNat c]
  else if c < 0x800 then [.ofNat (0xC0 + c / 0x40), .ofNat (0x80 + c % 0x40)]
  else if c < 0x10000 then
    [.ofNat (0xE0 + c / 0x1000), .ofNat (0x80 + c / 0x40 % 0x40), .ofNat (0x80 + c % 0x40)]
  else
    [.ofNat (0xF0 + c / 0x40000), .ofNat (0x80 + c / 0x1000 % 0x40),
      .ofNat (0x80 + c / 0x40 % 0x40), .ofNat (0x80 + c % 0x40)]

def spell : List Piece → List UInt8
  | [] => []
  | .byte b :: ps => b :: spell ps
  | .unit h :: .unit l :: ps =>
    if 0xD800 ≤ h ∧ h < 0xDC00 ∧ 0xDC00 ≤ l ∧ l < 0xE000 then
      utf8 (0x10000 + (h - 0xD800) * 0x400 + (l - 0xDC00)) ++ spell ps
    else utf8 h ++ spell (.unit l :: ps)
  | .unit u :: ps => utf8 u ++ spell ps

@[simp] theorem spell_map_byte (s : List UInt8) : spell (s.map .byte) = s := by
  induction s with
  | nil => rfl
  | cons b s ih => simp [spell, ih]

def shortEscape (b : UInt8) : Option UInt8 :=
  [(0x22, 0x22), (0x5C, 0x5C), (0x2F, 0x2F), (0x62, 0x08), (0x66, 0x0C), (0x6E, 0x0A),
    (0x72, 0x0D), (0x74, 0x09)].lookup b

def hexValue (b : UInt8) : Option Nat :=
  if 0x30 ≤ b ∧ b ≤ 0x39 then some (b.toNat - 0x30)
  else if 0x41 ≤ b ∧ b ≤ 0x46 then some (b.toNat - 0x41 + 10)
  else if 0x61 ≤ b ∧ b ≤ 0x66 then some (b.toNat - 0x61 + 10)
  else none

/-- Where a reader stands inside a string, after its pieces so far. -/
inductive Content where
  | plain (ps : List Piece)
  | escape (ps : List Piece)
  | hex (ps : List Piece) (digits unit : Nat)
  deriving DecidableEq

/-- One byte of contents. The closing quote is none of them. -/
def Content.step : Content → UInt8 → Option Content
  | .plain ps, b =>
    if b = backslash then some (.escape ps)
    else if b = quote ∨ b < 0x20 then none
    else some (.plain (ps ++ [.byte b]))
  | .escape ps, b =>
    if b = 0x75 then some (.hex ps 0 0)
    else (shortEscape b).map fun c => .plain (ps ++ [.byte c])
  | .hex ps digits u, b =>
    (hexValue b).map fun d =>
      if digits = 3 then .plain (ps ++ [.unit (16 * u + d)])
      else .hex ps (digits + 1) (16 * u + d)

def unescape (body : List UInt8) : Option (List UInt8) :=
  match body.foldlM Content.step (.plain []) with
  | some (.plain ps) => some (spell ps)
  | _ => none

/-- A byte that stands for itself in a string. -/
def IsPlain (b : UInt8) : Prop := b ≠ backslash ∧ b ≠ quote ∧ ¬ b < 0x20

theorem Content.step_plain {b : UInt8} (h : IsPlain b) (ps : List Piece) :
    (Content.plain ps).step b = some (.plain (ps ++ [.byte b])) := by
  obtain ⟨hslash, hquote, hcontrol⟩ := h
  simp [step, hslash, hquote, hcontrol]

theorem Content.foldlM_plain {s : List UInt8} (h : ∀ b ∈ s, IsPlain b) (ps : List Piece) :
    s.foldlM Content.step (.plain ps) = some (.plain (ps ++ s.map .byte)) := by
  induction s generalizing ps with
  | nil => simp
  | cons b s ih =>
    rw [List.foldlM_cons, step_plain (h b List.mem_cons_self)]
    have hrest := ih (fun c hc => h c (List.mem_cons_of_mem _ hc)) (ps ++ [.byte b])
    simpa using hrest

/-- `text` is one string literal, quotes included, and stands for `s`. -/
def IsLiteral (text s : List UInt8) : Prop :=
  ∃ body, text = quote :: (body ++ [quote]) ∧ unescape body = some s

section Numbers

inductive NumberState where
  | start | minus | zero | int | point | frac | exp | expSign | expDigits

def isDigit (b : UInt8) : Bool := 0x30 ≤ b ∧ b ≤ 0x39

/-- After the integer part, or the fraction. -/
private def NumberState.after (point : Option NumberState) (b : UInt8) : Option NumberState :=
  if b = 0x2E then point else if b = 0x65 ∨ b = 0x45 then some .exp else none

private def NumberState.first (b : UInt8) : Option NumberState :=
  if b = 0x30 then some .zero else if isDigit b then some .int else none

def NumberState.step : NumberState → UInt8 → Option NumberState
  | .start, b => if b = 0x2D then some .minus else first b
  | .minus, b => first b
  | .zero, b => after (some .point) b
  | .int, b => if isDigit b then some .int else after (some .point) b
  | .point, b => if isDigit b then some .frac else none
  | .frac, b => if isDigit b then some .frac else after none b
  | .exp, b =>
    if isDigit b then some .expDigits
    else if b = 0x2B ∨ b = 0x2D then some .expSign else none
  | .expSign, b => if isDigit b then some .expDigits else none
  | .expDigits, b => if isDigit b then some .expDigits else none

def isNumber (w : List UInt8) : Bool :=
  match w.foldlM NumberState.step .start with
  | some .zero | some .int | some .frac | some .expDigits => true
  | _ => false

/-- No backslash stands in a number. -/
theorem NumberState.step_backslash (s : NumberState) : s.step backslash = none := by
  cases s <;> rfl

theorem NumberState.backslash_not_mem {w : List UInt8} {s t : NumberState}
    (h : w.foldlM NumberState.step s = some t) : backslash ∉ w := by
  induction w generalizing s with
  | nil => exact List.not_mem_nil
  | cons b w ih =>
    rw [List.foldlM_cons] at h
    obtain ⟨s', hstep, hrest⟩ := Option.bind_eq_some_iff.mp h
    rw [List.mem_cons]
    rintro (rfl | hmem)
    · rw [s.step_backslash] at hstep
      cases hstep
    · exact ih hrest hmem

theorem backslash_not_mem_of_isNumber {w : List UInt8} (h : isNumber w) : backslash ∉ w := by
  unfold isNumber at h
  cases hrun : w.foldlM NumberState.step .start with
  | none => simp [hrun] at h
  | some t => exact NumberState.backslash_not_mem hrun

end Numbers

inductive Token where
  | openBrace | closeBrace | openBracket | closeBracket | colon | comma
  | null | bool (b : Bool) | number (text : List UInt8) | string (s : List UInt8)
  deriving DecidableEq

/-- Between tokens, in a bare word, or inside a string. -/
inductive Mode where
  | between
  | word (w : List UInt8)
  | inside (c : Content)
  deriving DecidableEq

section Lexer

def isSpace (b : UInt8) : Bool := b = 0x20 ∨ b = 0x09 ∨ b = 0x0A ∨ b = 0x0D

def punctuation (b : UInt8) : Option Token :=
  [(0x7B, Token.openBrace), (0x7D, .closeBrace), (0x5B, .openBracket), (0x5D, .closeBracket),
    (0x3A, .colon), (0x2C, .comma)].lookup b

/-- Letters, digits, `+`, `-` and `.`. -/
def isWord (b : UInt8) : Bool :=
  isDigit b ∨ (0x41 ≤ b ∧ b ≤ 0x5A) ∨ (0x61 ≤ b ∧ b ≤ 0x7A) ∨ b = 0x2B ∨ b = 0x2D ∨ b = 0x2E

def wordToken (w : List UInt8) : Option Token :=
  if w = [0x6E, 0x75, 0x6C, 0x6C] then some .null
  else if w = [0x74, 0x72, 0x75, 0x65] then some (.bool true)
  else if w = [0x66, 0x61, 0x6C, 0x73, 0x65] then some (.bool false)
  else if isNumber w then some (.number w)
  else none

private def Mode.begin (b : UInt8) : Option (List Token × Mode) :=
  if b = quote then some ([], .inside (.plain []))
  else if isSpace b then some ([], .between)
  else match punctuation b with
    | some t => some ([t], .between)
    | none => if isWord b then some ([], .word [b]) else none

/-- One byte: the tokens it ends, and where the reader then stands. -/
def Mode.step : Mode → UInt8 → Option (List Token × Mode)
  | .between, b => begin b
  | .word w, b =>
    if isWord b then some ([], .word (w ++ [b]))
    else do
      let t ← wordToken w
      let (ts, m) ← begin b
      some (t :: ts, m)
  | .inside (.plain ps), b =>
    if b = quote then some ([.string (spell ps)], .between)
    else ((Content.plain ps).step b).map fun c => ([], .inside c)
  | .inside c, b => (c.step b).map fun c => ([], .inside c)

theorem Mode.begin_word {b : UInt8} (h : isWord b) : begin b = some ([], .word [b]) := by
  have hall : ∀ n : Fin 256, isWord (.ofFin n) →
      begin (.ofFin n) = some ([], .word [.ofFin n]) := by
    decide +kernel
  exact hall b.toFin h

theorem isPlain_of_isWord {b : UInt8} (h : isWord b) : IsPlain b := by
  have hall : ∀ n : Fin 256, isWord (.ofFin n) →
      UInt8.ofFin n ≠ backslash ∧ UInt8.ofFin n ≠ quote ∧ ¬ UInt8.ofFin n < 0x20 := by
    decide +kernel
  exact hall b.toFin h

def Mode.run : Mode → List UInt8 → Option (List Token × Mode)
  | m, [] => some ([], m)
  | m, b :: t => (m.step b).bind fun r => (r.2.run t).map fun r' => (r.1 ++ r'.1, r'.2)

/-- At the end of the text. -/
def Mode.finish : Mode → Option (List Token)
  | .between => some []
  | .word w => (wordToken w).map ([·])
  | .inside _ => none

def tokens (text : List UInt8) : Option (List Token) := do
  let (ts, m) ← Mode.between.run text
  let us ← m.finish
  some (ts ++ us)

theorem Mode.run_append (m : Mode) (a b : List UInt8) :
    m.run (a ++ b) =
      (m.run a).bind fun r => (r.2.run b).map fun r' => (r.1 ++ r'.1, r'.2) := by
  induction a generalizing m with
  | nil => simp [run]
  | cons c a ih =>
    rw [List.cons_append, run, run]
    cases m.step c with
    | none => rfl
    | some r =>
      simp only [Option.bind_some, ih]
      cases r.2.run a with
      | none => rfl
      | some r' => simp [Function.comp_def]

end Lexer

section Literals

/-- The closing quote is none of the contents' bytes. -/
theorem Mode.step_inside {c d : Content} {b : UInt8} (h : c.step b = some d) :
    (Mode.inside c).step b = some ([], .inside d) := by
  cases c with
  | plain ps =>
    have hquote : b ≠ quote := by
      rintro rfl
      cases h
    simp [step, hquote, h]
  | escape ps => simp [step, h]
  | hex ps digits u => simp [step, h]

theorem Mode.run_inside {body : List UInt8} {c d : Content}
    (h : body.foldlM Content.step c = some d) :
    (Mode.inside c).run body = some ([], .inside d) := by
  induction body generalizing c with
  | nil =>
    cases h
    rfl
  | cons b body ih =>
    rw [List.foldlM_cons] at h
    obtain ⟨c', hstep, hrest⟩ := Option.bind_eq_some_iff.mp h
    rw [run, step_inside hstep]
    simp [ih hrest]

/-- A literal is one token, and what follows it is read from between tokens. -/
theorem IsLiteral.run_append {text s : List UInt8} (h : IsLiteral text s) (rest : List UInt8) :
    Mode.between.run (text ++ rest) =
      (Mode.between.run rest).map fun r => (.string s :: r.1, r.2) := by
  obtain ⟨body, rfl, hbody⟩ := h
  unfold unescape at hbody
  split at hbody
  · next ps hps =>
    cases hbody
    have hopened : Mode.between.step quote = some ([], .inside (.plain [])) := rfl
    have hclosed : (Mode.inside (.plain [])).run (body ++ [quote]) =
        some ([.string (spell ps)], .between) := by
      rw [Mode.run_append, Mode.run_inside hps]
      rfl
    have hall : Mode.between.run (quote :: (body ++ [quote])) =
        some ([.string (spell ps)], .between) := by
      rw [Mode.run, hopened, Option.bind_some, hclosed]
      rfl
    rw [Mode.run_append, hall]
    rfl
  · cases hbody

end Literals

section Settled

/-- Not in the middle of an escape. -/
def Mode.Settled : Mode → Prop
  | .inside (.plain _) => True
  | .inside _ => False
  | _ => True

/-- A text that a reader leaves settled, wherever it entered it settled. -/
def Settles (text : List UInt8) : Prop :=
  ∀ ⦃m n : Mode⦄ ⦃ts : List Token⦄, m.Settled → m.run text = some (ts, n) → n.Settled

theorem Settles.nil : Settles [] := by
  intro m n ts hm h
  cases h
  exact hm

theorem Settles.append {a b : List UInt8} (ha : Settles a) (hb : Settles b) :
    Settles (a ++ b) := by
  intro m n ts hm h
  rw [Mode.run_append] at h
  obtain ⟨r, hr, h⟩ := Option.bind_eq_some_iff.mp h
  obtain ⟨r', hr', h⟩ := Option.map_eq_some_iff.mp h
  cases h
  exact hb (ha hm hr) hr'

theorem Settles.flatten {texts : List (List UInt8)} (h : ∀ t ∈ texts, Settles t) :
    Settles texts.flatten := by
  induction texts with
  | nil => exact .nil
  | cons t texts ih =>
    exact (h t List.mem_cons_self).append (ih fun t' ht' => h t' (List.mem_cons_of_mem _ ht'))

theorem Settles.intercalate {sep : List UInt8} {texts : List (List UInt8)} (hsep : Settles sep)
    (h : ∀ t ∈ texts, Settles t) : Settles (sep.intercalate texts) := by
  induction texts with
  | nil => exact .nil
  | cons t texts ih =>
    have ht := h t List.mem_cons_self
    cases texts with
    | nil => simpa using ht
    | cons t' texts =>
      rw [List.intercalate_cons_cons]
      exact (ht.append hsep).append (ih fun u hu => h u (List.mem_cons_of_mem _ hu))

theorem Mode.settled_begin {b : UInt8} {m : Mode} {ts : List Token}
    (h : begin b = some (ts, m)) : m.Settled := by
  unfold begin at h
  repeat' split at h
  all_goals cases h <;> trivial

/-- Only a backslash begins an escape. -/
theorem Mode.settled_step {m n : Mode} {b : UInt8} {ts : List Token} (hm : m.Settled)
    (hb : b ≠ backslash) (h : m.step b = some (ts, n)) : n.Settled := by
  cases m with
  | between => exact settled_begin h
  | word w =>
    rw [step] at h
    split at h
    · cases h
      trivial
    · obtain ⟨t, -, h⟩ := Option.bind_eq_some_iff.mp h
      obtain ⟨r, hr, h⟩ := Option.bind_eq_some_iff.mp h
      cases h
      exact settled_begin hr
  | inside c =>
    cases c with
    | plain ps =>
      rw [step] at h
      split at h
      · cases h
        trivial
      · rw [Content.step, if_neg hb] at h
        split at h
        · cases h
        · cases h
          trivial
    | escape ps => exact hm.elim
    | hex ps digits u => exact hm.elim

theorem Settles.singleton {b : UInt8} (hb : b ≠ backslash) : Settles [b] := by
  intro m n ts hm h
  rw [Mode.run] at h
  obtain ⟨r, hr, h⟩ := Option.bind_eq_some_iff.mp h
  cases h
  exact Mode.settled_step hm hb hr

/-- A backslash and the letter of a short escape. -/
theorem Settles.escape {b : UInt8} (hb : b ≠ 0x75) : Settles [backslash, b] := by
  intro m n ts hm h
  obtain ⟨r, hr, h⟩ := Option.bind_eq_some_iff.mp h
  obtain ⟨r', hr', h⟩ := Option.map_eq_some_iff.mp h
  cases h
  cases m with
  | between => cases hr
  | word w =>
    obtain ⟨t, -, hr⟩ := Option.bind_eq_some_iff.mp hr
    cases hr
  | inside c =>
    cases c with
    | plain ps =>
      cases hr
      obtain ⟨r, hr, h⟩ := Option.bind_eq_some_iff.mp hr'
      cases h
      obtain ⟨c, hc, h⟩ := Option.map_eq_some_iff.mp hr
      cases h
      rw [Content.step, if_neg hb] at hc
      obtain ⟨b', -, h⟩ := Option.map_eq_some_iff.mp hc
      cases h
      trivial
    | escape ps => exact hm.elim
    | hex ps digits u => exact hm.elim

theorem Settles.of_not_mem {text : List UInt8} (h : backslash ∉ text) : Settles text := by
  induction text with
  | nil => exact .nil
  | cons b text ih =>
    rw [List.mem_cons, not_or] at h
    exact (Settles.singleton (Ne.symm h.1)).append (ih h.2)

end Settled

section Grammar

/-- The texts of values, as token lists. -/
inductive Value : List Token → Json → Prop
  | null : Value [.null] .null
  | bool (b : Bool) : Value [.bool b] (.bool b)
  | number (w : List UInt8) : Value [.number w] (.number w)
  | string (s : List UInt8) : Value [.string s] (.string s)
  | array (items : List (List Token × Json)) :
    (∀ i ∈ items, Value i.1 i.2) →
    Value (.openBracket :: ([Token.comma].intercalate (items.map Prod.fst) ++ [.closeBracket]))
      (.array (items.map Prod.snd))
  | object (members : List (List UInt8 × List Token × Json)) :
    (∀ m ∈ members, Value m.2.1 m.2.2) →
    Value (.openBrace :: ([Token.comma].intercalate
        (members.map fun m => .string m.1 :: .colon :: m.2.1) ++ [.closeBrace]))
      (.object (members.map fun m => (m.1, m.2.2)))

/-- Parts that are chains make a chain around a separator that goes with everything. -/
theorem isChain_intercalate {α : Type} {R : α → α → Prop} {sep : α} (hleft : ∀ a, R a sep)
    (hright : ∀ a, R sep a) {parts : List (List α)} (h : ∀ l ∈ parts, l.IsChain R) :
    ([sep].intercalate parts).IsChain R := by
  induction parts with
  | nil => exact .nil
  | cons l parts ih =>
    have hl := h l List.mem_cons_self
    cases parts with
    | nil => simpa using hl
    | cons l' parts =>
      have hrest := ih fun k hk => h k (List.mem_cons_of_mem _ hk)
      rw [List.intercalate_cons_cons, List.append_assoc]
      refine hl.append (List.isChain_cons.mpr ⟨fun a _ => hright a, hrest⟩) fun a _ b hb => ?_
      cases hb
      exact hleft a

/-- A string right after a closing bracket. -/
def Jammed (a b : Token) : Prop := a = .closeBracket ∧ ∃ s, b = .string s

theorem isChain_enclosed {first last : Token} {ts : List Token} (hfirst : first ≠ .closeBracket)
    (hlast : ∀ s, last ≠ .string s) (h : ts.IsChain fun a b => ¬ Jammed a b) :
    (first :: (ts ++ [last])).IsChain fun a b => ¬ Jammed a b := by
  refine List.isChain_cons.mpr ⟨fun a _ hjam => hfirst hjam.1, ?_⟩
  refine h.append (.singleton _) fun a _ b hb hjam => ?_
  cases hb
  obtain ⟨-, s, hs⟩ := hjam
  exact hlast s hs

/-- No value has a string right after a closing bracket. -/
theorem Value.isChain {ts : List Token} {v : Json} (h : Value ts v) :
    ts.IsChain fun a b => ¬ Jammed a b := by
  have hcomma : (∀ a, ¬ Jammed a .comma) ∧ ∀ a, ¬ Jammed .comma a := by
    constructor
    · rintro a ⟨-, s, hs⟩
      cases hs
    · rintro a ⟨hclose, -⟩
      cases hclose
  induction h with
  | null => exact .singleton _
  | bool b => exact .singleton _
  | number w => exact .singleton _
  | string s => exact .singleton _
  | array items hitems ih =>
    refine isChain_enclosed nofun (fun s => nofun) (isChain_intercalate hcomma.1 hcomma.2 ?_)
    intro l hl
    obtain ⟨i, hi, rfl⟩ := List.mem_map.mp hl
    exact ih i hi
  | object members hmembers ih =>
    refine isChain_enclosed nofun (fun s => nofun) (isChain_intercalate hcomma.1 hcomma.2 ?_)
    intro l hl
    obtain ⟨m, hm, rfl⟩ := List.mem_map.mp hl
    have hcolon : ∀ a, ¬ Jammed .colon a := fun a hjam => nomatch hjam.1
    have hkey : ¬ Jammed (.string m.1) .colon := fun hjam => nomatch hjam.1
    exact List.isChain_cons_cons.mpr
      ⟨hkey, List.isChain_cons.mpr ⟨fun a _ => hcolon a, ih m hm⟩⟩

/-- `text` is well-formed JSON for `v`. -/
def Text (text : List UInt8) (v : Json) : Prop := ∃ ts, tokens text = some ts ∧ Value ts v

end Grammar

section MissingComma
variable {word : List UInt8}

theorem Mode.run_word (h : ∀ b ∈ word, isWord b) (w : List UInt8) :
    (Mode.word w).run word = some ([], .word (w ++ word)) := by
  induction word generalizing w with
  | nil => simp [run]
  | cons b word ih =>
    have hstep : (Mode.word w).step b = some ([], .word (w ++ [b])) := by
      rw [step, if_pos (h b List.mem_cons_self)]
    rw [run, hstep, Option.bind_some, ih fun c hc => h c (List.mem_cons_of_mem _ hc)]
    simp

/-- Out of a string, a bare word that is no token cannot end. -/
theorem Mode.run_bare (h : ∀ b ∈ word, isWord b) (hne : word ≠ []) (hbare : wordToken word = none)
    (after : List UInt8) : Mode.between.run (word ++ quote :: after) = none := by
  obtain ⟨b, word, rfl⟩ := List.exists_cons_of_ne_nil hne
  have hbegin : Mode.between.step b = some ([], .word [b]) := begin_word (h b List.mem_cons_self)
  have hword := run_word (fun c hc => h c (List.mem_cons_of_mem _ hc)) [b]
  have hend : (Mode.word (b :: word)).step quote = none := by
    have hquote : isWord quote = false := rfl
    simp [step, hquote, hbare]
  rw [List.cons_append, run, hbegin, Option.bind_some, run_append, hword, Option.bind_some, run]
  simp [hend]

theorem isLiteral_of_word (h : ∀ b ∈ word, isWord b) :
    IsLiteral (quote :: (word ++ [quote])) word := by
  refine ⟨word, rfl, ?_⟩
  rw [unescape, Content.foldlM_plain fun b hb => isPlain_of_isWord (h b hb)]
  simp

/-- Between tokens, a closing bracket and a quoted word are two tokens next to each other. -/
theorem Mode.run_jammed (h : ∀ b ∈ word, isWord b) (after : List UInt8) :
    Mode.between.run (0x5D :: quote :: (word ++ quote :: after)) =
      (Mode.between.run after).map fun r => (.closeBracket :: .string word :: r.1, r.2) := by
  have hclose : Mode.between.step 0x5D = some ([.closeBracket], .between) := rfl
  have hword := (isLiteral_of_word h).run_append after
  rw [List.cons_append, List.append_assoc, List.singleton_append] at hword
  rw [run, hclose, Option.bind_some, hword]
  simp [Function.comp_def]

/-- A byte that ends a bare word is read as it is between tokens. -/
theorem Mode.run_end_word {b : UInt8} (hb : isWord b = false) (w rest : List UInt8) :
    (Mode.word w).run (b :: rest) =
      (wordToken w).bind fun t => (Mode.between.run (b :: rest)).map fun r => (t :: r.1, r.2) := by
  rw [run, run, step, step, if_neg (by simp [hb])]
  cases wordToken w with
  | none => rfl
  | some t =>
    cases begin b with
    | none => rfl
    | some r => simp [Function.comp_def]

/-- Who reads the bracket as a token reads it jammed; inside a string the quotes change
sides and the word stands bare. -/
theorem Mode.jams {m n : Mode} {after : List UInt8} {ts : List Token} (hm : m.Settled)
    (hword : ∀ b ∈ word, isWord b) (hne : word ≠ []) (hbare : wordToken word = none)
    (h : m.run (0x5D :: quote :: (word ++ quote :: after)) = some (ts, n)) :
    ∃ front rest, ts = front ++ .closeBracket :: .string word :: rest := by
  cases m with
  | between =>
    rw [run_jammed hword] at h
    obtain ⟨r, -, h⟩ := Option.map_eq_some_iff.mp h
    cases h
    exact ⟨[], r.1, rfl⟩
  | word w =>
    rw [run_end_word rfl, run_jammed hword] at h
    obtain ⟨t, -, h⟩ := Option.bind_eq_some_iff.mp h
    obtain ⟨r', hr', h⟩ := Option.map_eq_some_iff.mp h
    obtain ⟨r, -, hr⟩ := Option.map_eq_some_iff.mp hr'
    cases hr
    cases h
    exact ⟨[t], r.1, rfl⟩
  | inside c =>
    cases c with
    | plain ps =>
      have hbracket : (Mode.inside (.plain ps)).step 0x5D =
          some ([], .inside (.plain (ps ++ [.byte 0x5D]))) := rfl
      have hclose : (Mode.inside (.plain (ps ++ [.byte 0x5D]))).step quote =
          some ([.string (spell (ps ++ [.byte 0x5D]))], .between) := rfl
      rw [run, hbracket, Option.bind_some, run, hclose, Option.bind_some,
        run_bare hword hne hbare] at h
      cases h
    | escape ps => exact hm.elim
    | hex ps digits u => exact hm.elim

/-- A closing bracket and a quoted word after it make no value, wherever they stand. -/
theorem not_text_of_settles {before : List UInt8} (hbefore : Settles before)
    (hword : ∀ b ∈ word, isWord b) (hne : word ≠ []) (hbare : wordToken word = none)
    (after : List UInt8) (v : Json) :
    ¬ Text (before ++ 0x5D :: quote :: (word ++ quote :: after)) v := by
  rintro ⟨ts, hts, hv⟩
  obtain ⟨r, hr, hts⟩ := Option.bind_eq_some_iff.mp hts
  obtain ⟨us, -, hts⟩ := Option.bind_eq_some_iff.mp hts
  rw [Mode.run_append] at hr
  obtain ⟨⟨xs, m⟩, hm, hr⟩ := Option.bind_eq_some_iff.mp hr
  obtain ⟨⟨ys, n⟩, hn, hr⟩ := Option.map_eq_some_iff.mp hr
  cases hr
  cases hts
  have hsettled : m.Settled := hbefore (m := .between) trivial hm
  obtain ⟨front, zs, rfl⟩ := Mode.jams hsettled hword hne hbare hn
  have hchain := hv.isChain
  rw [List.append_assoc, List.append_assoc] at hchain
  have hjam := (List.isChain_cons_cons.mp hchain.right_of_append.right_of_append).1
  exact hjam ⟨rfl, word, rfl⟩

end MissingComma

end Json
