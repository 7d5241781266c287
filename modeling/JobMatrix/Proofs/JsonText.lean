import JobMatrix.Proofs.Decimal
import JobMatrix.Proofs.Dict
import JobMatrix.Value.Json
import Mathlib.Data.List.Forall2
import Mathlib.Data.Nat.Digits.Defs

/-! JSON text is read back as it was written: texts of characters, integers that are not too long,
truth values and nothing, and lists and mappings of these. A value is written when it is not nested
deeper than the writer goes, and then and only then its text is read back by a reader that goes as
deep. -/

namespace JobMatrix.Json

variable {n room : Nat} {c : Char} {r : List Char} {v : Value}

theorem hexValue?_hexDigit : ∀ n < 16, hexValue? (Text.hexDigit n) = some n := by decide

theorem unit?_hex (h : n < 0x10000) :
    ∃ a b c d, Text.hex 4 n = [a, b, c, d] ∧ unit? a b c d = some n := by
  refine ⟨_, _, _, _, rfl, ?_⟩
  simp only [unit?, hexValue?_hexDigit _ (Nat.mod_lt _ (by decide))]
  congr 1
  omega

theorem readString?_letter {e : Char} (acc : List Nat) (r : List Char)
    (h : letterEscape? e = some c) :
    readString? acc ('\\' :: e :: r) = readString? (c.toNat :: acc) r := by
  have unlike : e ≠ 'u' := by
    rintro rfl
    cases h
  rw [readString?.eq_def]
  split <;> grind

theorem readString?_plain (acc : List Nat) (r : List Char) (quote : c ≠ '"') (back : c ≠ '\\')
    (printed : 0x20 ≤ c.toNat) : readString? acc (c :: r) = readString? (c.toNat :: acc) r := by
  rw [readString?.eq_def]
  split <;> grind

theorem readString?_unit {a b d : Char} (acc : List Nat) (r : List Char)
    (h : unit? a b c d = some n) (whole : Text.isFirstHalf n = false) :
    readString? acc ('\\' :: 'u' :: a :: b :: c :: d :: r) = readString? (n :: acc) r := by
  rw [readString?.eq_def]
  split
  case h_3 e f g i r' same =>
    cases same
    rw [h]
    cases second : unit? e f g i with
    | none => rfl
    | some lo => simp only [whole, Bool.false_and, Bool.false_eq_true, if_false]
  all_goals grind

theorem readString?_pair {a b d e f g h : Char} {hi lo : Nat} (acc : List Nat) (r : List Char)
    (first : unit? a b c d = some hi) (second : unit? e f g h = some lo)
    (high : Text.isFirstHalf hi = true) (low : Text.isSecondHalf lo = true) :
    readString? acc ('\\' :: 'u' :: a :: b :: c :: d :: '\\' :: 'u' :: e :: f :: g :: h :: r) =
      readString? (Text.joined hi lo :: acc) r := by
  rw [readString?.eq_def]
  split <;> grind

theorem toNat_valid (c : Char) : c.toNat < 0xd800 ∨ 0xdfff < c.toNat ∧ c.toNat < 0x110000 := by
  have valid := c.valid
  rwa [UInt32.isValidChar, Nat.isValidChar] at valid

/-- The code point of a character is not that of a half. -/
theorem isHalf_toNat (c : Char) : Text.isHalf c.toNat = false := by
  have valid := toNat_valid c
  simp only [Text.isHalf, Text.isFirstHalf, Text.isSecondHalf, Bool.or_eq_false_iff,
    Bool.and_eq_false_iff, decide_eq_false_iff_not]
  omega

/-- How a character is written: after a backslash, as it is, as one unit of sixteen bits, or as
its two halves. -/
theorem escapeChar_cases (c : Char) :
    (∃ e, escapeChar c = ['\\', e] ∧ letterEscape? e = some c) ∨
    (escapeChar c = [c] ∧ c ≠ '"' ∧ c ≠ '\\' ∧ 0x20 ≤ c.toNat) ∨
    (escapeChar c = unitEscape c.toNat ∧ c.toNat < 0x10000) ∨
    ∃ hi lo, escapeChar c = unitEscape hi ++ unitEscape lo ∧ hi < 0x10000 ∧ lo < 0x10000 ∧
      Text.isFirstHalf hi = true ∧ Text.isSecondHalf lo = true ∧ Text.joined hi lo = c.toNat := by
  have valid := toNat_valid c
  have code {n : Nat} (h : c.toNat = n) : Char.ofNat n = c := h ▸ c.ofNat_toNat
  generalize written : escapeChar c = text
  rw [escapeChar] at written
  by_cases marked : c = '"' ∨ c = '\\'
  · rw [if_pos marked] at written
    exact .inl ⟨c, written.symm, by rcases marked with rfl | rfl <;> rfl⟩
  rw [if_neg marked] at written
  by_cases own : c = '\n'
  · rw [if_pos own] at written
    exact .inl ⟨'n', written.symm, congrArg some own.symm⟩
  rw [if_neg own] at written
  by_cases own : c = '\r'
  · rw [if_pos own] at written
    exact .inl ⟨'r', written.symm, congrArg some own.symm⟩
  rw [if_neg own] at written
  by_cases own : c = '\t'
  · rw [if_pos own] at written
    exact .inl ⟨'t', written.symm, congrArg some own.symm⟩
  rw [if_neg own] at written
  by_cases own : c.toNat = 8
  · rw [if_pos own] at written
    exact .inl ⟨'b', written.symm, congrArg some (code own)⟩
  rw [if_neg own] at written
  by_cases own : c.toNat = 12
  · rw [if_pos own] at written
    exact .inl ⟨'f', written.symm, congrArg some (code own)⟩
  rw [if_neg own] at written
  by_cases printed : 0x20 ≤ c.toNat ∧ c.toNat < 0x7f
  · rw [if_pos printed] at written
    exact .inr (.inl ⟨written.symm, fun h => marked (.inl h), fun h => marked (.inr h), printed.1⟩)
  rw [if_neg printed] at written
  by_cases small : c.toNat < 0x10000
  · rw [if_pos small] at written
    exact .inr (.inr (.inl ⟨written.symm, small⟩))
  rw [if_neg small] at written
  have most : c.toNat < 0x110000 := by omega
  refine .inr (.inr (.inr ⟨_, _, written.symm, by omega, by omega, ?_, ?_, ?_⟩))
  · simp only [Text.isFirstHalf, Bool.and_eq_true, decide_eq_true_eq]
    omega
  · simp only [Text.isSecondHalf, Bool.and_eq_true, decide_eq_true_eq]
    omega
  · unfold Text.joined
    omega

theorem exists_unitEscape (h : n < 0x10000) :
    ∃ a b c d, unitEscape n = ['\\', 'u', a, b, c, d] ∧ unit? a b c d = some n := by
  obtain ⟨a, b, c, d, digits, unit⟩ := unit?_hex h
  exact ⟨a, b, c, d, by rw [unitEscape, digits], unit⟩

/-- A character is read back as it was written, whatever follows. -/
theorem readString?_escapeChar (c : Char) (acc : List Nat) (r : List Char) :
    readString? acc (escapeChar c ++ r) = readString? (c.toNat :: acc) r := by
  rcases escapeChar_cases c with ⟨e, written, read⟩ | ⟨written, quote, back, printed⟩ |
    ⟨written, small⟩ | ⟨hi, lo, written, hiSmall, loSmall, high, low, code⟩
  · rw [written]
    exact readString?_letter acc r read
  · rw [written]
    exact readString?_plain acc r quote back printed
  · obtain ⟨a, b, c', d, digits, read⟩ := exists_unitEscape small
    rw [written, digits]
    exact readString?_unit acc r read (Bool.or_eq_false_iff.mp (isHalf_toNat c)).1
  · obtain ⟨a, b, c', d, digits, read⟩ := exists_unitEscape hiSmall
    obtain ⟨e, f, g, h, digits', read'⟩ := exists_unitEscape loSmall
    rw [written, digits, digits', ← code]
    exact readString?_pair acc r read read' high low

theorem readString?_escaped (cs : List Char) (acc : List Nat) (r : List Char) :
    readString? acc (cs.flatMap escapeChar ++ '"' :: r) =
      some (.ofPoints (acc.reverse ++ cs.map Char.toNat), r) := by
  induction cs generalizing acc with
  | nil => simp [readString?]
  | cons c cs ih =>
    rw [List.flatMap_cons, List.append_assoc, readString?_escapeChar, ih]
    simp

theorem ofPoints_toNat (s : String) : Scalar.ofPoints (s.toList.map Char.toNat) = .text s := by
  have whole : (s.toList.map Char.toNat).any Text.isHalf = false := by
    simp [isHalf_toNat]
  rw [Scalar.ofPoints, whole]
  simp [Function.comp_def]

theorem readString?_quoted (s : String) (r : List Char) :
    readString? [] (s.toList.flatMap escapeChar ++ '"' :: r) = some (.text s, r) := by
  rw [readString?_escaped, List.reverse_nil, List.nil_append, ofPoints_toNat]

/-- What may stand after a value. -/
def Stops : List Char → Prop
  | [] => True
  | c :: _ => c = ',' ∨ c = ']' ∨ c = '\x7d'

theorem Stops.takeWhile_isDigit (h : Stops r) :
    r.takeWhile Char.isDigit = [] ∧ r.dropWhile Char.isDigit = r := by
  cases r with
  | nil => exact ⟨rfl, rfl⟩
  | cons c r => rcases h with rfl | rfl | rfl <;> exact ⟨rfl, rfl⟩

theorem readWhole?_toDigits (n : Nat) (h : Stops r) :
    readWhole? (Nat.toDigits 10 n ++ r) = some (Nat.toDigits 10 n, r) := by
  cases Nat.eq_zero_or_pos n with
  | inl zero => subst zero; rfl
  | inr pos =>
    obtain ⟨c, cs, digits, nonzero⟩ := head_toDigits pos
    have all (d : Char) (mem : d ∈ Nat.toDigits 10 n) : d.isDigit = true :=
      Nat.isDigit_of_mem_toDigits (by decide) (by decide) mem
    obtain ⟨none_, rest⟩ := h.takeWhile_isDigit
    rw [readWhole?.eq_def]
    split
    · next r' same =>
      rw [digits] at same
      exact absurd (List.cons.inj same).1 nonzero
    · rw [List.takeWhile_append_of_pos all, List.dropWhile_append_of_pos all, none_, rest,
        List.append_nil, digits]
      rfl

theorem readNumber?_toDigits (negative : Bool) (small : n < 10 ^ Scalar.digitLimit) (h : Stops r) :
    readNumber? negative (Nat.toDigits 10 n ++ r) =
      some (.ok (.int (if negative then -(n : Int) else n), r)) := by
  have fraction : readFraction r = ([], r) := by
    cases r with
    | nil => rfl
    | cons c r => rcases h with rfl | rfl | rfl <;> rfl
  have exponent : readExponent r = (none, r) := by
    cases r with
    | nil => rfl
    | cons c r => rcases h with rfl | rfl | rfl <;> rfl
  have short : ¬ Scalar.digitLimit < (Nat.toDigits 10 n).length :=
    Nat.not_lt.mpr (Nat.toDigits_length 10 n _ (by decide) small)
  simp only [readNumber?, readWhole?_toDigits n h, fraction, exponent, List.append_nil,
    natOfDigits_toDigits, List.isEmpty_nil, Option.isNone_none, Bool.and_self, if_true, short,
    if_false]

theorem skipSpace_cons (space : isSpace c = false) (r : List Char) :
    skipSpace (c :: r) = c :: r := by
  simp [skipSpace, space]

/-- What is read where a value of this height stands. -/
def within {α : Type} (height room : Nat) (a : α) (rest : List Char) : Reading α :=
  if height ≤ room then .ok (a, rest) else .error .tooDeep

theorem within_max {α : Type} (m n : Nat) (a : α) (rest : List Char) :
    within (max m n) room a rest = if m ≤ room then within n room a rest else .error .tooDeep := by
  simp only [within, Nat.max_le]
  split <;> simp_all

theorem within_zero {α : Type} (a : α) (rest : List Char) : within 0 room a rest = .ok (a, rest) :=
  if_pos (Nat.zero_le room)

/-- A text is read as a value wherever it stands, if there is room for its nesting. -/
structure Reads (s : List Char) (v : Value) : Prop where
  opens : ∃ c cs, s = c :: cs ∧ isSpace c = false ∧ c ≠ ']'
  read : ∀ fuel room rest, s.length < fuel → Stops rest →
    readValue fuel room (s ++ rest) = within v.height room v rest

theorem reads_word {word : String} (flat : v.height = 0)
    (opens : ∃ c cs, word.toList = c :: cs ∧ isSpace c = false ∧ c ≠ ']')
    (read : ∀ fuel room rest, readValue (fuel + 1) room (word.toList ++ rest) = .ok (v, rest)) :
    Reads word.toList v :=
  ⟨opens, fun fuel room rest enough _ => by
    obtain ⟨fuel, rfl⟩ := Nat.exists_eq_succ_of_ne_zero (Nat.ne_of_gt (Nat.zero_lt_of_lt enough))
    rw [flat, within_zero]
    exact read fuel room rest⟩

theorem reads_null : Reads "null".toList .null :=
  reads_word rfl ⟨_, _, rfl, rfl, by decide⟩ fun _ _ _ => rfl

theorem reads_bool (b : Bool) : Reads (if b then "true" else "false" : String).toList (.bool b) := by
  cases b <;> exact reads_word rfl ⟨_, _, rfl, rfl, by decide⟩ fun _ _ _ => rfl

theorem reads_text (s : String) : Reads (quoted s).toList (.text s) := by
  have shape (rest : List Char) : (quoted s).toList ++ rest =
      '"' :: (s.toList.flatMap escapeChar ++ '"' :: rest) := by
    simp [quoted]
  refine ⟨⟨'"', s.toList.flatMap escapeChar ++ ['"'], by simp [quoted], rfl, by decide⟩, ?_⟩
  intro fuel room rest enough _
  cases fuel with
  | zero => cases enough
  | succ fuel =>
    rw [shape]
    change (readText (s.toList.flatMap escapeChar ++ '"' :: rest)).map _ = _
    rw [readText, readString?_quoted]
    rfl

theorem digit_unmarked (h : c.isDigit = true) :
    isSpace c = false ∧ c ≠ ']' ∧ c ≠ '"' ∧ c ≠ '[' ∧ c ≠ '\x7b' ∧ c ≠ '-' := by
  have unlike {d : Char} (other : d.isDigit = false) : c ≠ d := by
    rintro rfl
    rw [h] at other
    cases other
  refine ⟨?_, unlike rfl, unlike rfl, unlike rfl, unlike rfl, unlike rfl⟩
  simp [isSpace, @unlike ' ' rfl, @unlike '\t' rfl, @unlike '\n' rfl, @unlike '\r' rfl]

theorem exists_toDigits (n : Nat) : ∃ c cs, Nat.toDigits 10 n = c :: cs ∧ c.isDigit = true := by
  cases digits : Nat.toDigits 10 n with
  | nil => exact absurd digits Nat.toDigits_ne_nil
  | cons c cs =>
    have mem : c ∈ Nat.toDigits 10 n := digits ▸ List.mem_cons_self
    exact ⟨c, cs, rfl, Nat.isDigit_of_mem_toDigits (by decide) (by decide) mem⟩

theorem readValue_digit (fuel room : Nat) (cs : List Char) (h : c.isDigit = true) :
    readValue (fuel + 1) room (c :: cs) =
      (readNumber? false (c :: cs)).getD (readWord (c :: cs)) := by
  obtain ⟨space, -, quote, list, map, minus⟩ := digit_unmarked h
  rw [readValue, skipSpace_cons space]
  split <;> simp_all

theorem reads_int {n : Int} (h : (Scalar.int n).isShowable = true) :
    Reads (toString n).toList (.int n) := by
  have small : n.natAbs < 10 ^ Scalar.digitLimit := by
    simpa only [Scalar.isShowable, decide_eq_true_eq] using h
  obtain ⟨c, cs, digits, digit⟩ := exists_toDigits n.natAbs
  obtain ⟨space, bracket, -⟩ := digit_unmarked digit
  rw [toList_toString]
  by_cases negative : n < 0
  · rw [if_pos negative]
    refine ⟨⟨'-', _, rfl, rfl, by decide⟩, fun fuel room rest enough stops => ?_⟩
    cases fuel with
    | zero => cases enough
    | succ fuel =>
      change (readNumber? true (Nat.toDigits 10 n.natAbs ++ rest)).getD _ = _
      have same : -(n.natAbs : Int) = n := by omega
      rw [readNumber?_toDigits true small stops, if_pos rfl, same]
      rfl
  · rw [if_neg negative, List.nil_append]
    refine ⟨⟨c, cs, digits, space, bracket⟩, fun fuel room rest enough stops => ?_⟩
    cases fuel with
    | zero => cases enough
    | succ fuel =>
      have number := readNumber?_toDigits false small stops
      have same : (n.natAbs : Int) = n := by omega
      rw [digits, List.cons_append] at number ⊢
      rw [readValue_digit _ _ _ digit, number, if_neg Bool.false_ne_true, same]
      rfl

/-- Parts are read one after another: one that is too deep is met before those behind it. -/
theorem readItems_intercalate (room : Nat) {parts : List (List Char)} {items : List Value}
    (h : List.Forall₂ Reads parts items) (nonempty : parts ≠ []) (acc : List Value)
    (rest : List Char) (fuel : Nat) (enough : ([','].intercalate parts).length + 1 < fuel) :
    readItems fuel room acc ([','].intercalate parts ++ ']' :: rest) =
      within (Value.heightAll items) room (acc.reverse ++ items) rest := by
  induction h generalizing acc fuel with
  | nil => exact absurd rfl nonempty
  | @cons s v parts items own others ih =>
    cases fuel with
    | zero => cases enough
    | succ fuel =>
      rw [Value.heightAll, within_max]
      cases others with
      | nil =>
        rw [List.intercalate_singleton] at enough ⊢
        rw [readItems, own.read fuel room (']' :: rest) (by omega) (Or.inr (.inl rfl)), within]
        by_cases deep : v.height ≤ room
        · simp [deep, @skipSpace_cons ']' rfl, Value.heightAll, within_zero]
        · simp only [deep, if_false]
      | cons own' others =>
        rw [List.intercalate_cons_cons] at enough ⊢
        simp only [List.length_append, List.length_singleton] at enough
        rw [List.append_assoc, List.append_assoc, List.singleton_append, readItems,
          own.read fuel room (',' :: _) (by omega) (Or.inl rfl), within]
        have later := ih (by simp) (v :: acc) fuel (by omega)
        rw [List.reverse_cons, List.append_assoc, List.singleton_append] at later
        by_cases deep : v.height ≤ room
        · simp only [deep, if_true]
          exact later
        · simp only [deep, if_false]

theorem intercalate_start (s : List Char) (parts : List (List Char)) :
    ∃ more, [','].intercalate (s :: parts) = s ++ more := by
  cases parts with
  | nil => exact ⟨[], by rw [List.intercalate_singleton, List.append_nil]⟩
  | cons s' parts => exact ⟨_, by rw [List.intercalate_cons_cons, List.append_assoc]⟩

theorem readValue_bracket (fuel room : Nat) (cs : List Char) (space : isSpace c = false)
    (inside : c ≠ ']') : readValue (fuel + 1) (room + 1) ('[' :: c :: cs) =
      (readItems fuel room [] (c :: cs)).map fun p => (.list p.1, p.2) := by
  rw [readValue, skipSpace_cons rfl]
  simp only [skipSpace_cons space]
  split
  · next same => exact absurd (List.cons.inj same).1 inside
  · rfl

theorem map_within {α β : Type} (height : Nat) (a : α) (f : α → β) (rest : List Char) :
    (within height room a rest).map (fun p => (f p.1, p.2)) =
      within (height + 1) (room + 1) (f a) rest := by
  simp only [within, Nat.add_le_add_iff_right]
  split <;> rfl

theorem reads_list {parts : List (List Char)} {items : List Value}
    (h : List.Forall₂ Reads parts items) :
    Reads ('[' :: ([','].intercalate parts ++ [']'])) (.list items) := by
  refine ⟨⟨'[', _, rfl, rfl, by decide⟩, fun fuel room rest enough _ => ?_⟩
  simp only [List.length_cons, List.length_append, List.length_nil] at enough
  cases fuel with
  | zero => cases enough
  | succ fuel =>
    rw [List.cons_append, List.append_assoc, List.singleton_append]
    cases room with
    | zero => rfl
    | succ room =>
      cases h with
      | nil => rfl
      | @cons s v parts items own others =>
        have whole := readItems_intercalate room (.cons own others) (by simp) [] rest fuel
          (by omega)
        obtain ⟨c, cs, rfl, space, inside⟩ := own.opens
        obtain ⟨more, start⟩ := intercalate_start (c :: cs) parts
        rw [start, List.cons_append, List.cons_append] at whole ⊢
        rw [readValue_bracket fuel room _ space inside, whole]
        exact map_within _ _ Value.list rest

/-- Entries under texts. -/
def named (entries : List (String × Value)) : List (Scalar × Value) :=
  entries.map fun e => (.text e.1, e.2)

theorem put_named (d : List (String × Value)) (key : String) (v : Value) :
    Dict.put (named d) (.text key) v = named (Dict.put d key v) := by
  induction d with
  | nil => rfl
  | cons e rest ih =>
    have alike : (Scalar.text e.1 == .text key) = (e.1 == key) := by
      change decide (Scalar.text e.1 = .text key) = decide (e.1 = key)
      simp
    simp only [named, List.map_cons, Dict.put, alike] at ih ⊢
    split
    · rfl
    · rw [List.map_cons, ih]

/-- A text is read as an entry of a mapping. -/
def ReadsEntry (s : List Char) (e : String × Value) : Prop :=
  ∃ text, s = (quoted e.1).toList ++ ':' :: text ∧ Reads text e.2

/-- An entry is read, and then the next one or the closing brace, unless it is too deep. -/
theorem readEntries_entry {s : List Char} {name : String} (h : ReadsEntry s (name, v))
    (acc : List (Scalar × Value)) (r : List Char) {fuel : Nat} (enough : s.length ≤ fuel) :
    readEntries (fuel + 1) room acc (s ++ ',' :: r) =
        (if v.height ≤ room then readEntries fuel room (Dict.put acc (.text name) v) r
          else .error .tooDeep) ∧
      readEntries (fuel + 1) room acc (s ++ '\x7d' :: r) =
        within v.height room (Dict.put acc (.text name) v) r := by
  obtain ⟨text, same, read⟩ := h
  rw [same] at enough ⊢
  have shape (r : List Char) : (quoted name).toList ++ ':' :: text ++ r =
      '"' :: (name.toList.flatMap escapeChar ++ '"' :: ':' :: (text ++ r)) := by
    simp [quoted]
  have shorter : text.length < fuel := by
    simp only [List.length_append, List.length_cons] at enough
    omega
  have more := read.read fuel room (',' :: r) shorter (Or.inl rfl)
  have last := read.read fuel room ('\x7d' :: r) shorter (Or.inr (.inr rfl))
  simp only [within] at more last ⊢
  by_cases deep : v.height ≤ room
  · rw [if_pos deep] at more last ⊢
    refine ⟨?_, ?_⟩
    · simp only [shape, readEntries, @skipSpace_cons '"' rfl, @skipSpace_cons ':' rfl,
        @skipSpace_cons ',' rfl, readString?_quoted, more]
    · simp only [shape, readEntries, @skipSpace_cons '"' rfl, @skipSpace_cons ':' rfl,
        @skipSpace_cons '\x7d' rfl, readString?_quoted, last, deep, if_true]
  · rw [if_neg deep] at more last ⊢
    refine ⟨?_, ?_⟩
    · simp only [shape, readEntries, @skipSpace_cons '"' rfl, @skipSpace_cons ':' rfl,
        readString?_quoted, more]
    · simp only [shape, readEntries, @skipSpace_cons '"' rfl, @skipSpace_cons ':' rfl,
        readString?_quoted, last, deep, if_false]

theorem readEntries_intercalate (room : Nat) {parts : List (List Char)}
    {entries : List (String × Value)} (h : List.Forall₂ ReadsEntry parts entries)
    (nonempty : parts ≠ [])
    (done : List (String × Value)) (distinct : Dict.Distinct (done ++ entries)) (rest : List Char)
    (fuel : Nat) (enough : ([','].intercalate parts).length + 1 < fuel) :
    readEntries fuel room (named done) ([','].intercalate parts ++ '\x7d' :: rest) =
      within (Value.heightEntries (named entries)) room (named (done ++ entries)) rest := by
  induction h generalizing done fuel with
  | nil => exact absurd rfl nonempty
  | @cons s e parts entries own others ih =>
    obtain ⟨name, v⟩ := e
    have new : name ∉ Dict.keys done := fun old => by
      rw [Dict.Distinct, Dict.keys, List.map_append] at distinct
      exact (List.nodup_append.mp distinct).2.2 name old name (.head _) rfl
    have added : Dict.put (named done) (.text name) v = named (done ++ [(name, v)]) := by
      rw [put_named, Dict.put_new new]
    have height : Value.heightEntries (named ((name, v) :: entries)) =
        max v.height (Value.heightEntries (named entries)) := rfl
    cases fuel with
    | zero => cases enough
    | succ fuel =>
      rw [height, within_max]
      cases others with
      | nil =>
        rw [List.intercalate_singleton] at enough ⊢
        rw [(readEntries_entry own _ rest (by omega)).2, added]
        exact if_congr Iff.rfl (within_zero _ _).symm rfl
      | cons own' others =>
        rw [List.intercalate_cons_cons] at enough ⊢
        simp only [List.length_append, List.length_singleton] at enough
        rw [List.append_assoc, List.append_assoc, List.singleton_append,
          (readEntries_entry own _ _ (by omega)).1, added]
        have later := ih (by simp) (done ++ [(name, v)]) (by simpa using distinct) fuel (by omega)
        rw [List.append_assoc, List.singleton_append] at later
        rw [later]

theorem reads_object {parts : List (List Char)} {entries : List (String × Value)}
    (h : List.Forall₂ ReadsEntry parts entries) (distinct : Dict.Distinct entries) :
    Reads ('\x7b' :: ([','].intercalate parts ++ ['\x7d'])) (.object entries) := by
  refine ⟨⟨'\x7b', _, rfl, rfl, by decide⟩, fun fuel room rest enough _ => ?_⟩
  simp only [List.length_cons, List.length_append, List.length_nil] at enough
  cases fuel with
  | zero => cases enough
  | succ fuel =>
    rw [List.cons_append, List.append_assoc, List.singleton_append]
    cases room with
    | zero => rfl
    | succ room =>
      cases h with
      | nil => rfl
      | @cons s e parts entries own others =>
        have whole := readEntries_intercalate room (.cons own others) (by simp) [] distinct
          rest fuel (by omega)
        obtain ⟨text, same, -⟩ := own
        rw [same] at whole ⊢
        obtain ⟨more, start⟩ := intercalate_start ((quoted e.1).toList ++ ':' :: text) parts
        rw [start] at whole ⊢
        have shape : (quoted e.1).toList ++ ':' :: text ++ more ++ '\x7d' :: rest =
            '"' :: (e.1.toList.flatMap escapeChar ++
              '"' :: ':' :: (text ++ more ++ '\x7d' :: rest)) := by
          simp [quoted]
        rw [shape] at whole ⊢
        change (readEntries fuel room [] ('"' :: _)).map _ = _
        rw [show ([] : List (Scalar × Value)) = named [] from rfl, whole]
        exact map_within _ _ Value.map rest

/-- The values built of null, truth values, integers that can be shown, texts of characters, and
lists and objects of such values. -/
inductive Plain : Value → Prop
  | null : Plain .null
  | bool (b : Bool) : Plain (.bool b)
  | int {n : Int} (short : (Scalar.int n).isShowable = true) : Plain (.int n)
  | text (s : String) : Plain (.text s)
  | list {items : List Value} (each : ∀ v ∈ items, Plain v) : Plain (.list items)
  | object {entries : List (String × Value)} (distinct : Dict.Distinct entries)
      (each : ∀ e ∈ entries, Plain e.2) : Plain (.object entries)

theorem toList_enclose (depth : Nat) (opening closing : String) (parts : List String) :
    (Layout.compact.enclose depth opening closing parts).toList =
      opening.toList ++ ([','].intercalate (parts.map String.toList) ++ closing.toList) := by
  cases parts with
  | nil => simp [Layout.enclose]
  | cons s parts => simp [Layout.enclose, Layout.newline, String.toList_intercalate]

/-- A value of this height is written at a depth, unless it goes beyond the limit. -/
def fitted {α : Type} (height limit depth : Nat) (a : α) : Except Obstacle α :=
  if depth + height ≤ limit then .ok a else .error .depth

/-- A text is what is written for a value, and it is read as the value. -/
structure Mirrors (s : String) (v : Value) : Prop where
  written : ∀ {limit depth}, depth ≤ limit →
    writeAt .compact limit depth v = fitted v.height limit depth s
  reads : Reads s.toList v

/-- Inside a collection everything stands one deeper. -/
theorem map_fitted {α β : Type} {limit depth : Nat} (height : Nat) (a : α) (f : α → β)
    {parts : Except Obstacle α}
    (h : depth + 1 ≤ limit → parts = fitted height limit (depth + 1) a) :
    (if depth < limit then parts.map f else .error .depth) =
      fitted (height + 1) limit depth (f a) := by
  by_cases room : depth < limit
  · rw [if_pos room, h room, fitted, fitted, Nat.add_right_comm, Nat.add_assoc]
    split <;> rfl
  · rw [if_neg room, fitted, if_neg (by omega)]

theorem writeItems_mirrors {items : List Value} (h : ∀ v ∈ items, ∃ s, Mirrors s v) :
    ∃ parts, (∀ {limit depth}, depth ≤ limit →
        writeItems .compact limit depth items =
          fitted (Value.heightAll items) limit depth parts) ∧
      List.Forall₂ Reads (parts.map String.toList) items := by
  induction items with
  | nil => exact ⟨[], fun room => (if_pos room).symm, .nil⟩
  | cons v rest ih =>
    obtain ⟨⟨s, own⟩, later⟩ := List.forall_mem_cons.mp h
    obtain ⟨parts, others, reads⟩ := ih later
    refine ⟨s :: parts, fun {limit depth} room => ?_, .cons own.reads reads⟩
    rw [writeItems, own.written room, others room, Value.heightAll, fitted, fitted, fitted]
    by_cases fits : depth + v.height ≤ limit <;>
      by_cases more : depth + Value.heightAll rest ≤ limit <;>
      simp [fits, more, ← Nat.add_max_add_left] <;> rfl

theorem writeEntries_mirrors {entries : List (String × Value)}
    (h : ∀ e ∈ entries, ∃ s, Mirrors s e.2) :
    ∃ parts, (∀ {limit depth}, depth ≤ limit →
        writeEntries .compact limit depth (named entries) =
          fitted (Value.heightEntries (named entries)) limit depth parts) ∧
      List.Forall₂ ReadsEntry (parts.map String.toList) entries := by
  induction entries with
  | nil => exact ⟨[], fun room => (if_pos room).symm, .nil⟩
  | cons e rest ih =>
    obtain ⟨⟨s, own⟩, later⟩ := List.forall_mem_cons.mp h
    obtain ⟨parts, others, reads⟩ := ih later
    refine ⟨(quoted e.1 ++ ":" ++ s) :: parts, fun {limit depth} room => ?_,
      .cons ⟨s.toList, by simp, own.reads⟩ reads⟩
    have height : Value.heightEntries (named (e :: rest)) =
        max e.2.height (Value.heightEntries (named rest)) := rfl
    rw [height]
    simp only [named, List.map_cons, writeEntries, key, own.written room] at others ⊢
    rw [others room]
    simp only [fitted]
    by_cases fits : depth + e.2.height ≤ limit <;>
      by_cases more : depth + Value.heightEntries (rest.map fun e => (.text e.1, e.2)) ≤ limit <;>
      simp [fits, more, ← Nat.add_max_add_left] <;> rfl

theorem Plain.mirrors (h : Plain v) : ∃ s, Mirrors s v := by
  have flat {limit depth : Nat} {s : String} (room : depth ≤ limit) :
      Except.ok s = fitted 0 limit depth s := by
    rw [fitted, if_pos (by omega)]
  induction h with
  | null => exact ⟨"null", flat, reads_null⟩
  | bool b => exact ⟨_, flat, reads_bool b⟩
  | @int n short =>
    refine ⟨toString n, fun room => ?_, reads_int short⟩
    rw [Value.int, writeAt, scalar, if_pos short]
    exact flat room
  | text s => exact ⟨quoted s, flat, reads_text s⟩
  | @list items _ ih =>
    obtain ⟨parts, written, reads⟩ := writeItems_mirrors ih
    refine ⟨Layout.compact.enclose 0 "[" "]" parts, fun _ => ?_, ?_⟩
    · rw [writeAt]
      exact map_fitted (Value.heightAll items) parts _ written
    · rw [toList_enclose]
      exact reads_list reads
  | @object entries distinct _ ih =>
    obtain ⟨parts, written, reads⟩ := writeEntries_mirrors ih
    refine ⟨Layout.compact.enclose 0 "\x7b" "\x7d" parts, fun _ => ?_, ?_⟩
    · rw [Value.object, writeAt]
      exact map_fitted (Value.heightEntries (named entries)) parts _ written
    · rw [toList_enclose]
      exact reads_object reads distinct

/-- A value is written when it is not nested deeper than the limit, and its text is read back when
the reader has room for the nesting; else they say that it is too deep. -/
theorem read_write (h : Plain v) :
    ∃ s, (∀ limit, write .compact v limit = if v.height ≤ limit then .ok s else .error .depth) ∧
      ∀ room, read s room = if v.height ≤ room then .ok v else .error .tooDeep := by
  obtain ⟨s, mirrors⟩ := h.mirrors
  refine ⟨s, fun limit => ?_, fun room => ?_⟩
  · rw [write, mirrors.written (Nat.zero_le limit), fitted, Nat.zero_add]
  · have whole := mirrors.reads.read (s.toList.length + 1) room [] (Nat.lt_succ_self _) trivial
    rw [List.append_nil, within] at whole
    simp only [read, whole]
    by_cases deep : v.height ≤ room
    · simp only [deep, if_true]
      rfl
    · simp only [deep, if_false]

end JobMatrix.Json
