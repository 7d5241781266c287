import JobMatrix.History.Record
import JobMatrix.Proofs.Dict
import Mathlib.Data.List.Lex
import Mathlib.Data.List.Perm.Basic

/-! The history store, write by write: what a row is kept as, where it is put, and why a write is
refused. -/

namespace JobMatrix.History

namespace Cell

variable {n : Int}

theorem toList_loop (data : ByteArray) (i : Nat) (before : List UInt8) :
    ByteArray.toList.loop data i before = before.reverse ++ data.data.toList.drop i := by
  generalize left : data.size - i = n
  induction n generalizing i before with
  | zero =>
    have past : data.data.toList.length ≤ i := by
      simp only [Array.length_toList]
      exact Nat.le_of_sub_eq_zero left
    rw [ByteArray.toList.loop, if_neg (by omega), List.drop_eq_nil_of_le past, List.append_nil]
  | succ n ih =>
    have inside : i < data.data.toList.length := by
      simp only [Array.length_toList]
      change i < data.size
      omega
    have byte : data.get! i = data.data.toList[i] := by
      rw [Array.getElem_toList]
      exact getElem!_pos data.data i _
    rw [ByteArray.toList.loop, if_pos (by omega), ih _ _ (by omega),
      List.drop_eq_getElem_cons inside, byte]
    simp

theorem toUTF8_inj {a b : String} (h : a.toUTF8.toList = b.toUTF8.toList) : a = b := by
  simp only [ByteArray.toList, toList_loop, List.reverse_nil, List.drop_zero, List.nil_append] at h
  exact String.toByteArray_inj.mp (ByteArray.ext (Array.toList_inj.mp h))

theorem equal_text_iff {c : Cell} {t : String} : c.equal (.text t) = true ↔ c = .text t := by
  cases c with
  | text s =>
    simp only [equal, less, textLess, Bool.and_eq_true, Bool.not_eq_true', decide_eq_false_iff_not,
      text.injEq]
    constructor
    · rintro ⟨above, below⟩
      exact toUTF8_inj (List.le_antisymm below above)
    · rintro rfl
      exact ⟨List.lt_irrefl _, List.lt_irrefl _⟩
  | null | int | real | bytes => simp [equal, less, rank]

theorem equal_int_iff {m : Int} : (int m).equal (.int n) = true ↔ m = n := by
  simp only [equal, less, Bool.and_eq_true, Bool.not_eq_true', decide_eq_false_iff_not]
  omega

theorem equal_comm (a b : Cell) : a.equal b = b.equal a := by
  cases a <;> cases b <;> simp [equal, Bool.and_comm]

theorem whole_ne_null (x : Double) : whole x ≠ .null := by
  unfold whole
  split
  · split <;> simp
  · simp

theorem ofNumeral?_ne_null {s : String} {c : Cell} (h : ofNumeral? s = some c) : c ≠ .null := by
  unfold ofNumeral? at h
  dsimp only at h
  split at h
  · cases h
  · generalize (if (Number.signed _).1 = true then _ else _ : Int) = n at h
    split at h <;> cases h <;> simp

theorem integer_text_ne_null (text : String) : Affinity.integer.apply (.text text) ≠ .null := by
  simp only [Affinity.apply]
  split
  · exact whole_ne_null _
  · next c _ found => exact ofNumeral?_ne_null found
  · simp

/-- The cell of a value, nothing where it has none. -/
def of (v : Value) : Cell :=
  match ofValue v with
  | .ok (.ok c) => c
  | _ => .null

theorem of_int (h : fits n = true) : of (.int n) = .int n := by
  simp [of, ofValue, Value.int, h]

theorem fits_of_int (h : ofValue (.int n) = .ok (.ok (.of (.int n)))) : fits n = true := by
  simp only [Value.int, ofValue] at h
  split at h
  · next fits => exact fits
  · cases h

end Cell

namespace Table

variable {t : Table}

/-- The affinity of a column. -/
def affinity (t : Table) (name : String) : Affinity :=
  ((t.columns.find? (·.name == name)).map Column.affinity).getD .text

/-- What a row of values is kept as. -/
def kept (t : Table) (row : List (String × Value)) : Dict String Cell :=
  row.map fun e => (e.1, (t.affinity e.1).apply (.of e.2))

/-- Names of columns, each once, and not the one for the number of a row. -/
structure Names (t : Table) (names : List String) : Prop where
  nonempty : names ≠ []
  once : names.Nodup
  columns : ∀ n ∈ names, n ∈ t.columns.map Column.name
  unnumbered : t.rowName ∉ names

theorem exists_columns {names : List String} (h : ∀ n ∈ names, n ∈ t.columns.map Column.name) :
    ∃ cs : List Column, (∀ c ∈ cs, c ∈ t.columns) ∧ cs.map Column.name = names := by
  induction names with
  | nil => exact ⟨[], by simp, rfl⟩
  | cons n rest ih =>
    obtain ⟨here, later⟩ := List.forall_mem_cons.mp h
    obtain ⟨c, mem, rfl⟩ := List.mem_map.mp here
    obtain ⟨cs, mem', rfl⟩ := ih later
    exact ⟨c :: cs, List.forall_mem_cons.mpr ⟨mem, mem'⟩, rfl⟩

theorem columns_once (t : Table) : (t.columns.map Column.name).Nodup := by
  cases t <;> decide

theorem table?_name (t : Table) : Store.table? t.name = some t := by
  cases t <;> decide +kernel

theorem tableNamed_name (t : Table) : Store.tableNamed t.name = pure t := by
  simp [Store.tableNamed, table?_name, pure, Except.pure]

theorem column?_name {c : Column} (mem : c ∈ t.columns) : Store.column? t c.name = some c := by
  have each : ∀ c ∈ t.columns, Store.column? t c.name = some c := by
    cases t <;> decide +kernel
  exact each c mem

theorem affinity_name {c : Column} (mem : c ∈ t.columns) : t.affinity c.name = c.affinity := by
  have each : ∀ c ∈ t.columns, t.affinity c.name = c.affinity := by
    cases t <;> decide +kernel
  exact each c mem

end Table

/-- Some cells of a row, by name. -/
def Row.view (r : Row) (names : List String) : Dict String Cell :=
  names.map fun n => (n, r.get n)

namespace Store

variable {t t' : Table} {row : List (String × Value)} {s s' : Store} {column now text : String}
  {r : Row}

theorem columnsOf_map (refuse : String → Refusal) {cs : List Column}
    (mem : ∀ c ∈ cs, c ∈ t.columns) : columnsOf t refuse (cs.map Column.name) = .ok cs := by
  induction cs with
  | nil => rfl
  | cons c cs ih =>
    obtain ⟨here, later⟩ := List.forall_mem_cons.mp mem
    rw [List.map_cons, columnsOf, Table.column?_name here, ih later]
    rfl

theorem cellsOf_names {cells : List (String × Except Refusal Cell)} (h : cellsOf row = .ok cells) :
    cells.map (·.1) = row.map (·.1) := by
  induction row generalizing cells with
  | nil =>
    cases h
    rfl
  | cons e rest ih =>
    obtain ⟨c, -, h⟩ := bind_eq_ok_iff.mp h
    obtain ⟨cs, others, h⟩ := bind_eq_ok_iff.mp h
    cases h
    simp [ih others]

theorem bound_cons_ok {name : String} {c : Except Refusal Cell}
    {rest : List (String × Except Refusal Cell)} {given : List (String × Cell)}
    (h : bound ((name, c) :: rest) = .ok given) :
    ∃ cell more, c = .ok cell ∧ bound rest = .ok more ∧ given = (name, cell) :: more := by
  cases c with
  | error n => cases h
  | ok cell =>
    cases others : bound rest with
    | error r =>
      rw [bound, others] at h
      cases h
    | ok more =>
      rw [bound, others] at h
      cases h
      exact ⟨cell, more, rfl, rfl, rfl⟩

theorem bound_names {cells : List (String × Except Refusal Cell)} {given : List (String × Cell)}
    (h : bound cells = .ok given) : Dict.keys given = cells.map (·.1) := by
  induction cells generalizing given with
  | nil =>
    cases h
    rfl
  | cons e rest ih =>
    obtain ⟨cell, more, -, others, rfl⟩ := bound_cons_ok h
    exact congrArg (e.1 :: ·) (ih others)

theorem bound_cellsOf {cells : List (String × Except Refusal Cell)} {given : List (String × Cell)}
    (h : cellsOf row = .ok cells) (h' : bound cells = .ok given) :
    given = row.map (fun e => (e.1, .of e.2)) ∧
      ∀ e ∈ row, Cell.ofValue e.2 = .ok (.ok (.of e.2)) := by
  induction row generalizing cells given with
  | nil =>
    cases h
    cases h'
    simp
  | cons e rest ih =>
    obtain ⟨c, own, h⟩ := bind_eq_ok_iff.mp h
    obtain ⟨cs, others, h⟩ := bind_eq_ok_iff.mp h
    cases h
    obtain ⟨cell, more, rfl, given', rfl⟩ := bound_cons_ok h'
    obtain ⟨rfl, whole⟩ := ih others given'
    have same : Cell.of e.2 = cell := by simp [Cell.of, own]
    exact ⟨by simp [same], List.forall_mem_cons.mpr ⟨by rw [own, same], whole⟩⟩

/-- A write is refused because a primary key is taken. -/
def Clashes (f : Fault) : Prop := ∃ t : Table, f = .history (.duplicate t.name t.key)

/-- A write is refused because a primary key is taken or a row that is referred to is missing. -/
def Violates (f : Fault) : Prop := Clashes f ∨ f = .history .missingParent

theorem not_violates_of_ofValue {v : Value} {r : Refusal}
    (h : Cell.ofValue v = .ok (.error r)) : ¬ Violates (.history r) := by
  have why : r = .tooLarge ∨ ∃ points, r = .halves points := by
    unfold Cell.ofValue at h
    split at h
    case h_3 n =>
      split at h
      · cases h
      · exact .inl (Except.error.inj (Except.ok.inj h)).symm
    case h_6 points => exact .inr ⟨points, (Except.error.inj (Except.ok.inj h)).symm⟩
    case h_10 =>
      generalize Json.write .compact _ = written at h
      cases written <;> cases h
    all_goals cases h
  rintro (⟨t, same⟩ | same) <;> cases same <;> rcases why with ⟨⟨⟩⟩ | ⟨_, ⟨⟩⟩

theorem bound_error {cells : List (String × Except Refusal Cell)} {r : Refusal}
    (h : cellsOf row = .ok cells) (h' : bound cells = .error r) : ¬ Violates (.history r) := by
  induction row generalizing cells with
  | nil =>
    cases h
    cases h'
  | cons e rest ih =>
    obtain ⟨c, own, h⟩ := bind_eq_ok_iff.mp h
    obtain ⟨cs, others, h⟩ := bind_eq_ok_iff.mp h
    cases h
    cases c with
    | error r' =>
      cases h'
      exact not_violates_of_ofValue own
    | ok cell =>
      cases later : bound cs with
      | ok given =>
        rw [bound, later] at h'
        cases h'
      | error r' =>
        rw [bound, later] at h'
        cases h'
        exact ih others later

theorem nextNumber_error {r : Refusal} (h : s.nextNumber t = .error r) : r = .full := by
  cases t with
  | runs | jobs => cases h
  | steps =>
    simp only [nextNumber] at h
    split at h
    · cases h
    · exact (Except.error.inj h).symm

theorem zip_names {cs : List Column} {cells : List (String × Cell)}
    (h : cs.map Column.name = Dict.keys cells) :
    (cs.zip cells).map (fun p => (p.1.name, p.2.2)) = cells := by
  induction cs generalizing cells with
  | nil =>
    cases cells with
    | nil => rfl
    | cons e rest => cases h
  | cons c cs ih =>
    cases cells with
    | nil => cases h
    | cons e rest =>
      obtain ⟨same, others⟩ := List.cons.inj h
      simp [same, ih others]

theorem insert_eq {row : List (String × Except Refusal Cell)} (names : t.Names (row.map (·.1))) :
    s.insert t.name now row = (do
      let given ← bound row
      let number ← s.nextNumber t
      (s.grown t (newRow t number now given)).checked t) := by
  have nonempty : row.isEmpty = false := by
    have := names.nonempty
    cases row <;> simp_all
  have named : t.name.isEmpty = false := by cases t <;> decide +kernel
  obtain ⟨cs, mem, heads⟩ := Table.exists_columns names.columns
  have columns := columnsOf_map (.noColumnIn t.name) mem
  rw [heads] at columns
  simp only [insert, named, nonempty, Table.tableNamed_name, columns, Bool.false_eq_true, if_false,
    pure_bind]
  cases given : bound row with
  | error r => rfl
  | ok cells =>
    have keys := bound_names given
    have distinct : Dict.Distinct cells := by
      rw [Dict.Distinct, keys]
      exact names.once
    have whole : (cs.zip cells).foldl (fun d p => Dict.putNew d p.1.name p.2.2) [] = cells := by
      calc (cs.zip cells).foldl (fun d p => Dict.putNew d p.1.name p.2.2) []
        _ = ((cs.zip cells).map fun p => (p.1.name, p.2.2)).foldl
              (fun d e => Dict.putNew d e.1 e.2) [] := by rw [List.foldl_map]
        _ = cells := by
          rw [zip_names (heads.trans keys.symm)]
          exact Dict.Distinct.foldl_append (d := []) Dict.putNew_new distinct
    have numbered : s.numberOf t cells = s.nextNumber t := by
      have absent : Dict.get? cells t.rowName = none :=
        Dict.get?_eq_none_iff.mpr (keys ▸ names.unnumbered)
      rw [numberOf, absent]
      rfl
    change (s.numberOf t ((cs.zip cells).foldl (fun d p => Dict.putNew d p.1.name p.2.2) []) >>=
      _) = (s.nextNumber t >>= _)
    rw [whole, numbered]

/-- A row that values are inserted as. -/
structure Kept (t : Table) (now : String) (row : List (String × Value)) (r : Row) : Prop where
  whole : ∀ e ∈ row, Cell.ofValue e.2 = .ok (.ok (.of e.2))
  view : r.view (row.map (·.1)) = t.kept row
  keys : Dict.keys r.cells = t.columns.map Column.name
  number : t = .steps → r.get "output_id" = .int r.number
  blank : ∀ c ∈ t.columns, c.name ∉ row.map (·.1) → c.name ≠ t.rowName →
    r.get c.name = if c.stamped then .text now else .null

theorem Kept.get (h : Kept t now row r) {name : String} {v : Value} (mem : (name, v) ∈ row) :
    r.get name = (t.affinity name).apply (.of v) := by
  have view := h.view
  rw [Row.view, Table.kept, List.map_map, List.map_inj_left] at view
  exact (Prod.mk.inj (view _ mem)).2

theorem Kept.cells (h : Kept t now row r) (all : row.map (·.1) = t.columns.map Column.name) :
    r.cells = t.kept row := by
  have distinct : Dict.Distinct r.cells := by
    rw [Dict.Distinct, h.keys]
    exact t.columns_once
  rw [← h.view, all, ← h.keys, Row.view, Dict.keys, List.map_map]
  refine (List.map_id' r.cells).symm.trans (List.map_congr_left fun e mem => ?_)
  simp [Row.get, distinct.get?_of_mem mem]

theorem get_newRow (number : Int) (now : String) (given : Dict String Cell) {c : Column}
    (mem : c ∈ t.columns) :
    (newRow t number now given).get c.name =
      if c.name == t.rowName then .int number
      else match Dict.get? given c.name with
        | some cell => c.affinity.apply cell
        | none => if c.stamped then .text now else .null := by
  have distinct : Dict.Distinct (newRow t number now given).cells := by
    simpa [Dict.Distinct, Dict.keys, newRow, Function.comp_def] using t.columns_once
  rw [Row.get, distinct.get?_of_mem (List.mem_map_of_mem mem)]
  rfl

theorem kept_newRow (number : Int) (names : t.Names (row.map (·.1)))
    (whole : ∀ e ∈ row, Cell.ofValue e.2 = .ok (.ok (.of e.2))) :
    Kept t now row (newRow t number now (row.map fun e => (e.1, .of e.2))) := by
  have distinct : Dict.Distinct (row.map fun e => (e.1, Cell.of e.2)) := by
    simpa [Dict.Distinct, Dict.keys, Function.comp_def] using names.once
  refine ⟨whole, ?_, ?_, ?_, ?_⟩
  · rw [Row.view, Table.kept, List.map_map]
    refine List.map_congr_left fun e mem => ?_
    have named : e.1 ∈ row.map (·.1) := List.mem_map_of_mem mem
    obtain ⟨c, mem', same⟩ := List.mem_map.mp (names.columns e.1 named)
    have unnumbered : (c.name == t.rowName) = false := by
      simp only [beq_eq_false_iff_ne]
      rintro numbered
      exact names.unnumbered (numbered ▸ same ▸ named)
    have value := distinct.get?_of_mem (List.mem_map_of_mem mem)
    rw [Function.comp_apply, ← same, get_newRow _ _ _ mem', Table.affinity_name mem', unnumbered,
      same, value]
    rfl
  · simp [Dict.keys, newRow, Function.comp_def]
  · rintro rfl
    exact get_newRow (c := ⟨"output_id", .integer, false⟩) number now _ (.head _)
  · intro c mem absent unnumbered
    rw [get_newRow _ _ _ mem, Dict.get?_eq_none_iff.mpr]
    · simp [unnumbered]
    · simpa [Dict.keys, Function.comp_def] using absent

/-- How an insertion goes: a value cannot be kept or there is no number left, or the row is put in
its place and the keys and references are checked. -/
theorem insertValues_cases (s : Store) (now : String) (names : t.Names (row.map (·.1))) :
    (∃ f, s.insertValues t now row = .error f ∧ ¬ Violates f) ∨
    ∃ r, Kept t now row r ∧ s.nextNumber t = .ok r.number ∧
      s.insertValues t now row = ((s.grown t r).checked t).mapError .history := by
  unfold insertValues insertInto
  cases written : cellsOf row with
  | error o => exact .inl ⟨_, rfl, by rintro (⟨_, ⟨⟩⟩ | ⟨⟨⟩⟩)⟩
  | ok cells =>
    dsimp only
    rw [insert_eq (cellsOf_names written ▸ names)]
    cases given : bound cells with
    | error r => exact .inl ⟨_, rfl, bound_error written given⟩
    | ok kept =>
      obtain ⟨rfl, whole⟩ := bound_cellsOf written given
      cases next : s.nextNumber t with
      | error r =>
        cases nextNumber_error next
        exact .inl ⟨_, rfl, by rintro (⟨_, ⟨⟩⟩ | ⟨⟨⟩⟩)⟩
      | ok number => exact .inr ⟨_, kept_newRow number names whole, rfl, rfl⟩

theorem place_perm (r : Row) (rows : List Row) : (place r rows).Perm (r :: rows) := by
  induction rows with
  | nil => rfl
  | cons q rest ih =>
    unfold place
    split
    · rfl
    · exact (ih.cons q).trans (.swap r q rest)

theorem place_last {rows : List Row} (last : ∀ q ∈ rows, q.number ≤ r.number) :
    place r rows = rows ++ [r] := by
  induction rows with
  | nil => rfl
  | cons q rest ih =>
    obtain ⟨here, later⟩ := List.forall_mem_cons.mp last
    rw [place, if_neg (by omega), ih later, List.cons_append]

theorem le_foldl_max (rows : List Row) (m : Int) :
    m ≤ rows.foldl (fun m r => max m r.number) m ∧
      ∀ q ∈ rows, q.number ≤ rows.foldl (fun m r => max m r.number) m := by
  induction rows generalizing m with
  | nil => simp
  | cons q rest ih =>
    obtain ⟨least, all⟩ := ih (max m q.number)
    refine ⟨by simp only [List.foldl_cons]; omega, List.forall_mem_cons.mpr ⟨?_, all⟩⟩
    simp only [List.foldl_cons]
    omega

theorem nextNumber_steps {n : Int} (h : s.nextNumber .steps = .ok n) :
    ∀ q ∈ s.steps, q.number < n := by
  intro q mem
  have last := (le_foldl_max (s.rows .steps) 0).2 q mem
  simp only [nextNumber] at h
  split at h
  · cases h
    omega
  · cases h

@[simp] theorem rows_grown (s : Store) (t : Table) (r : Row) :
    (s.grown t r).rows t = place r (s.rows t) := by
  cases t <;> rfl

theorem rows_grown_of_ne (s : Store) (r : Row) (other : t' ≠ t) :
    (s.grown t r).rows t' = s.rows t' := by
  cases t <;> cases t' <;> first | rfl | exact absurd rfl other

/-- Keys and references hold. -/
structure Sound (s : Store) (t : Table) : Prop where
  keys : keysClash t (s.rows t) = false
  jobs : s.referencesMet .jobs = true
  steps : s.referencesMet .steps = true

theorem checked_cases (s : Store) (t : Table) :
    s.checked t = .ok s ∧ s.Sound t ∨
      ¬ s.Sound t ∧ (s.checked t = .error (.duplicate t.name t.key) ∨
        s.checked t = .error .missingParent) := by
  unfold checked
  split
  · next clash => exact .inr ⟨fun sound => by simp [sound.keys] at clash, .inl rfl⟩
  · next clash =>
    split
    · next met =>
      rw [Bool.and_eq_true] at met
      exact .inl ⟨rfl, by simpa using clash, met.1, met.2⟩
    · next unmet =>
      refine .inr ⟨fun sound => unmet ?_, .inr rfl⟩
      rw [sound.jobs, sound.steps]
      rfl

theorem checked_sound (h : s.checked t = .ok s') : s' = s ∧ s.Sound t := by
  rcases s.checked_cases t with ⟨given, sound⟩ | ⟨-, given | given⟩ <;> rw [given] at h <;> cases h
  exact ⟨rfl, sound⟩

theorem insertValues_ok (names : t.Names (row.map (·.1))) (h : s.insertValues t now row = .ok s') :
    ∃ r, Kept t now row r ∧ s.nextNumber t = .ok r.number ∧ s' = s.grown t r ∧ s'.Sound t := by
  rcases insertValues_cases s now names with ⟨f, failed, -⟩ | ⟨r, kept, next, put⟩
  · cases failed.symm.trans h
  · obtain ⟨rfl, sound⟩ := checked_sound (mapError_eq_ok_iff.mp (put.symm.trans h))
    exact ⟨r, kept, next, rfl, sound⟩

theorem checked_error {r : Refusal} (apart : keysClash t (s.rows t) = false)
    (h : s.checked t = .error r) : r = .missingParent := by
  unfold checked at h
  rw [apart, if_neg Bool.false_ne_true] at h
  split at h
  · cases h
  · exact (Except.error.inj h).symm

theorem insertValues_violates (names : t.Names (row.map (·.1))) {f : Fault}
    (h : s.insertValues t now row = .error f) (violates : Violates f) :
    ∃ r, Kept t now row r ∧ s.nextNumber t = .ok r.number ∧ ¬ (s.grown t r).Sound t ∧
      (keysClash t ((s.grown t r).rows t) = false → f = .history .missingParent) := by
  rcases insertValues_cases s now names with ⟨f', failed, why⟩ | ⟨r, kept, next, put⟩
  · cases failed.symm.trans h
    exact absurd violates why
  · rw [put] at h
    refine ⟨r, kept, next, fun sound => ?_, fun apart => ?_⟩
    · rcases (s.grown t r).checked_cases t with ⟨given, -⟩ | ⟨unsound, -⟩
      · rw [given] at h
        cases h
      · exact unsound sound
    · obtain ⟨r', given, rfl⟩ := mapError_eq_error_iff.mp h
      rw [checked_error apart given]

theorem keysClash_eq_false_iff {rows : List Row} :
    keysClash t rows = false ↔
      rows.Pairwise fun r q => (q.get t.key).equal (r.get t.key) = false := by
  induction rows with
  | nil => simp [keysClash]
  | cons r rest ih => simp [keysClash, ih]

theorem keysClash_place {rows : List Row} :
    keysClash t (place r rows) = false ↔
      (∀ q ∈ rows, (q.get t.key).equal (r.get t.key) = false) ∧ keysClash t rows = false := by
  have symmetric : ∀ {a b : Row}, (b.get t.key).equal (a.get t.key) = false →
      (a.get t.key).equal (b.get t.key) = false := fun h => Cell.equal_comm _ _ ▸ h
  rw [keysClash_eq_false_iff, keysClash_eq_false_iff,
    List.Perm.pairwise_iff symmetric (place_perm r rows), List.pairwise_cons]

theorem referencesMet_iff : s.referencesMet t = true ↔
    ∀ column parent, t.parent? = some (column, parent) → ∀ r ∈ s.rows t, r.get column = .null ∨
      ∃ p ∈ s.rows parent, (p.get parent.key).equal (r.get column) = true := by
  cases t <;> simp [referencesMet, Table.parent?]

theorem mem_rows_grown {s : Store} {t t' : Table} {r q : Row} :
    q ∈ (s.grown t r).rows t' ↔ t' = t ∧ q = r ∨ q ∈ s.rows t' := by
  by_cases same : t' = t
  · subst same
    rw [rows_grown, (place_perm r _).mem_iff, List.mem_cons]
    simp
  · rw [rows_grown_of_ne s r same]
    simp [same]

theorem Sound.grown (h : s.Sound t)
    (new : ∀ q ∈ s.rows t, (q.get t.key).equal (r.get t.key) = false)
    (parent : ∀ column parent, t.parent? = some (column, parent) →
      ∃ p ∈ s.rows parent, (p.get parent.key).equal (r.get column) = true) :
    (s.grown t r).Sound t := by
  have met (t' : Table) (old : s.referencesMet t' = true) :
      (s.grown t r).referencesMet t' = true := by
    rw [referencesMet_iff] at old ⊢
    intro column above named q mem
    rcases mem_rows_grown.mp mem with ⟨rfl, rfl⟩ | mem
    · obtain ⟨p, there, same⟩ := parent column above named
      exact .inr ⟨p, mem_rows_grown.mpr (.inr there), same⟩
    · rcases old column above named q mem with null | ⟨p, there, same⟩
      · exact .inl null
      · exact .inr ⟨p, mem_rows_grown.mpr (.inr there), same⟩
  refine ⟨?_, met .jobs h.jobs, met .steps h.steps⟩
  rw [rows_grown, keysClash_place]
  exact ⟨new, h.keys⟩

/-- The rows with a text in a column. -/
def listed (s : Store) (t : Table) (column text : String) : List Row :=
  (s.rows t).filter fun r => r.get column = .text text

theorem mem_listed : r ∈ s.listed t column text ↔ r ∈ s.rows t ∧ r.get column = .text text := by
  simp [listed]

theorem listed_grown_perm (own : r.get column = .text text) :
    ((s.grown t r).listed t column text).Perm (r :: s.listed t column text) := by
  have perm := (place_perm r (s.rows t)).filter fun r => r.get column = .text text
  simpa [listed, own] using perm

theorem listed_grown_other (other : r.get column ≠ .text text) :
    (s.grown t r).listed t column text = s.listed t column text := by
  rw [listed, rows_grown, listed]
  induction s.rows t with
  | nil => simp [place, other]
  | cons q rest ih =>
    unfold place
    split
    · simp [other]
    · simp [List.filter_cons, ih]

theorem listed_grown_of_ne (other : t' ≠ t) :
    (s.grown t r).listed t' column text = s.listed t' column text := by
  rw [listed, rows_grown_of_ne s r other, listed]

theorem listed_grown_steps (next : s.nextNumber .steps = .ok r.number)
    (own : r.get column = .text text) :
    (s.grown .steps r).listed .steps column text = s.listed .steps column text ++ [r] := by
  have last : ∀ q ∈ s.rows .steps, q.number ≤ r.number := fun q mem =>
    Int.le_of_lt (nextNumber_steps next q mem)
  rw [listed, rows_grown, place_last last, listed]
  simp [own]

theorem foldl_place_perm (rows acc : List Row) :
    (rows.foldl (fun acc r => place r acc) acc).Perm (rows ++ acc) := by
  induction rows generalizing acc with
  | nil => rfl
  | cons r rest ih =>
    exact (ih (place r acc)).trans (((place_perm r acc).append_left rest).trans List.perm_middle)

/-- The changes that close the entry of a run. -/
def ending (now overall json : String) : List (Column × Cell) :=
  [(⟨"status", .text, false⟩, .text overall), (⟨"end_timestamp", .integer, false⟩, .text now),
    (⟨"report_json", .text, false⟩, .text json)]

/-- A row of a run that has ended. -/
def ended (now overall json : String) (r : Row) : Row :=
  { r with
    cells := (ending now overall json).foldl (fun d u =>
      if Dict.contains d u.1.name then Dict.put d u.1.name (u.1.affinity.apply u.2)
      else d) r.cells }

theorem change_ending (now overall json : String) (r : Row) :
    change .runs (ending now overall json) r = .ok (ended now overall json r) := by
  simp [change, changeCell, ending, ended, Table.rowName]
  rfl

theorem matchesCell_run {run : String} :
    matchesCell .runs ⟨"run_id", .text, false⟩ (.text run) r = true ↔ r.get "run_id" = .text run :=
  Cell.equal_text_iff

theorem get_ended_of_ne {overall json name : String} (r : Row)
    (other : name ∉ ["status", "end_timestamp", "report_json"]) :
    (ended now overall json r).get name = r.get name := by
  have kept (d : Dict String Cell) (n : String) (c : Cell) (ne : n ≠ name) :
      Dict.get? (if Dict.contains d n then Dict.put d n c else d) name = Dict.get? d name := by
    split
    · simp [Dict.get?_put, ne]
    · rfl
  simp only [List.mem_cons, List.not_mem_nil, or_false, not_or] at other
  simp only [ended, ending, Row.get, List.foldl_cons, List.foldl_nil, kept _ _ _ (Ne.symm other.1),
    kept _ _ _ (Ne.symm other.2.1), kept _ _ _ (Ne.symm other.2.2)]

theorem get_ended (now overall json : String)
    (keys : Dict.keys r.cells = Table.runs.columns.map Column.name) :
    (ended now overall json r).get "status" = .text overall ∧
      (ended now overall json r).get "end_timestamp" = Affinity.integer.apply (.text now) ∧
      (ended now overall json r).get "report_json" = .text json := by
  have there (name : String) (mem : name ∈ Table.runs.columns.map Column.name) :
      ∃ c, Dict.get? r.cells name = some c := by
    refine Option.ne_none_iff_exists'.mp fun none_ => ?_
    exact Dict.get?_eq_none_iff.mp none_ (keys ▸ mem)
  obtain ⟨status, hs⟩ := there "status" (by decide)
  obtain ⟨time, ht⟩ := there "end_timestamp" (by decide)
  obtain ⟨report, hr⟩ := there "report_json" (by decide)
  simp [ended, ending, Row.get, Dict.contains, Dict.get?_put, hs, ht, hr, Affinity.apply]

/-- The rows of runs, with that of a run ended. -/
def withEnd (s : Store) (now run overall json : String) : Store :=
  s.withRows .runs ((s.runs.map fun r =>
    if r.get "run_id" = .text run then ended now overall json r else r).foldl
      (fun acc r => place r acc) [])

/-- The rows of runs are changed in place; then their numbers, their keys and the references to them
are checked. -/
theorem update_run (s : Store) (now run overall json : String) :
    s.update Table.runs.name [("status", .ok (.text overall)),
      ("end_timestamp", .ok (.text now)), ("report_json", .ok (.text json))] "run_id"
      (.ok (.text run)) =
    if numbersClash (s.withEnd now run overall json).runs then .error (.duplicate "runs" "rowid")
    else (s.withEnd now run overall json).checked .runs := by
  have columns := @columnsOf_map .runs .noColumn
    ((ending now overall json).map (·.1) ++ [⟨"run_id", .text, false⟩])
    (by simp [ending, Table.columns])
  simp only [ending, List.map_cons, List.map_nil, List.cons_append, List.nil_append] at columns
  have changed : changeWhere .runs (ending now overall json)
      (fun r => .ok ([(⟨"run_id", .text, false⟩, .text run)].all fun p =>
        matchesCell .runs p.1 p.2 r)) (s.rows .runs) = .ok (s.runs.map fun r =>
        if r.get "run_id" = .text run then ended now overall json r else r) := by
    rw [changeWhere, mapM_eq_ok_iff, List.map_map]
    refine List.map_congr_left fun r _ => ?_
    by_cases own : r.get "run_id" = .text run
    · have found := matchesCell_run.mpr own
      simp only [List.all_cons, List.all_nil, Bool.and_true, found, own, if_true,
        Function.comp_apply]
      exact change_ending now overall json r
    · have other := Bool.eq_false_iff.mpr (mt matchesCell_run.mp own)
      simp only [List.all_cons, List.all_nil, Bool.and_true, other, own, if_false,
        Function.comp_apply]
      rfl
  unfold update updateWhere
  simp only [Condition.equals, List.isEmpty_cons, Bool.false_eq_true, if_false,
    Table.tableNamed_name, pure_bind, List.map_cons, List.map_nil, List.cons_append,
    List.nil_append, columns, bound]
  change changeWhere .runs (ending now overall json)
    (fun r => .ok ([(⟨"run_id", .text, false⟩, .text run)].all fun p =>
      matchesCell .runs p.1 p.2 r)) (s.rows .runs) >>= _ = _
  rw [changed]
  rfl

/-- How the entry of a run is closed: the report has no text, or the row of the run is changed. -/
theorem close_cases (s : Store) (now run : String) (report : Report) :
    (∃ o, s.close now run report = .error (.unwritable o)) ∨
    ∃ json, s.close now run report =
      (if numbersClash (s.withEnd now run report.overall.text json).runs then
        .error (.duplicate "runs" "rowid")
      else (s.withEnd now run report.overall.text json).checked .runs).mapError .history := by
  have own : Cell.ofValue report.record =
      (Json.write .compact report.record).map fun s => .ok (.text s) := rfl
  unfold close updateValues
  cases written : Json.write .compact report.record with
  | error o =>
    refine .inl ⟨o, ?_⟩
    simp only [cellsOf, own, written]
    rfl
  | ok json =>
    have cells : cellsOf [("status", .text report.overall.text), ("end_timestamp", .text now),
        ("report_json", report.record)] = .ok [("status", .ok (.text report.overall.text)),
          ("end_timestamp", .ok (.text now)), ("report_json", .ok (.text json))] := by
      simp only [cellsOf, own, written]
      rfl
    rw [cells]
    exact .inr ⟨json, congrArg (Except.mapError _) (s.update_run now run _ json)⟩

theorem close_ok {run : String} {report : Report} (h : s.close now run report = .ok s') :
    ∃ json, s' = s.withEnd now run report.overall.text json ∧ s'.Sound .runs := by
  rcases s.close_cases now run report with ⟨o, failed⟩ | ⟨json, given⟩
  · cases failed.symm.trans h
  · have done := mapError_eq_ok_iff.mp (given.symm.trans h)
    split at done
    · cases done
    · obtain ⟨rfl, sound⟩ := checked_sound done
      exact ⟨json, rfl, sound⟩

theorem get_run_ended (now run overall json : String) (r : Row) :
    (if r.get "run_id" = .text run then ended now overall json r else r).get "run_id" =
      r.get "run_id" := by
  split
  · exact get_ended_of_ne r (by decide)
  · rfl

theorem mem_withEnd {run overall json : String} {q : Row}
    (mem : q ∈ (s.withEnd now run overall json).runs) :
    ∃ r ∈ s.runs, q.get "run_id" = r.get "run_id" := by
  have changed := (foldl_place_perm _ []).mem_iff.mp mem
  rw [List.append_nil] at changed
  obtain ⟨r, there, rfl⟩ := List.mem_map.mp changed
  exact ⟨r, there, get_run_ended now run overall json r⟩

theorem Sound.withEnd (h : s.Sound .runs) (now run overall json : String) :
    (s.withEnd now run overall json).Sound .runs := by
  have perm := foldl_place_perm (s.runs.map fun r =>
    if r.get "run_id" = .text run then ended now overall json r else r) []
  rw [List.append_nil] at perm
  have symmetric : ∀ {a b : Row}, (b.get "run_id").equal (a.get "run_id") = false →
      (a.get "run_id").equal (b.get "run_id") = false := fun h => Cell.equal_comm _ _ ▸ h
  refine ⟨?_, ?_, h.steps⟩
  · refine keysClash_eq_false_iff.mpr ((List.Perm.pairwise_iff symmetric perm).mpr ?_)
    rw [List.pairwise_map]
    simp only [get_run_ended]
    exact keysClash_eq_false_iff.mp h.keys
  · rw [referencesMet_iff]
    rintro column parent ⟨⟩ q mem
    rcases referencesMet_iff.mp h.jobs "run_id" .runs rfl q mem with null | ⟨p, there, same⟩
    · exact .inl null
    · refine .inr ⟨_, perm.mem_iff.mpr (List.mem_map_of_mem there), ?_⟩
      change (Row.get _ "run_id").equal _ = true
      rw [get_run_ended]
      exact same

theorem close_error {run : String} {report : Report} {f : Fault} (h : s.Sound .runs)
    (failed : s.close now run report = .error f) : ¬ Violates f := by
  rcases s.close_cases now run report with ⟨o, given⟩ | ⟨json, given⟩
  · cases given.symm.trans failed
    rintro (⟨_, ⟨⟩⟩ | ⟨⟨⟩⟩)
  · obtain ⟨r, refused, rfl⟩ := mapError_eq_error_iff.mp (given.symm.trans failed)
    split at refused
    · cases refused
      rintro (⟨t, same⟩ | ⟨⟨⟩⟩)
      have same := Fault.history.inj same
      cases t <;> exact absurd same (by decide)
    · rcases (s.withEnd now run report.overall.text json).checked_cases .runs with
        ⟨fine, -⟩ | ⟨unsound, -⟩
      · cases fine.symm.trans refused
      · exact absurd (h.withEnd now run report.overall.text json) unsound

theorem listed_withEnd (s : Store) (now run overall json run' : String) :
    ((s.withEnd now run overall json).listed .runs "run_id" run').Perm
      ((s.listed .runs "run_id" run').map fun r =>
        if run' = run then ended now overall json r else r) := by
  have perm := (foldl_place_perm (s.runs.map fun r =>
    if r.get "run_id" = .text run then ended now overall json r else r) []).filter
      fun r => r.get "run_id" = .text run'
  rw [List.append_nil, List.filter_map] at perm
  refine perm.trans (.of_eq ?_)
  simp only [Function.comp_def, get_run_ended]
  refine List.map_congr_left fun r mem => ?_
  have own : r.get "run_id" = .text run' := by simpa using (List.mem_filter.mp mem).2
  simp [own]

end Store

/-- A request goes through and changes the tables, or it raises something and leaves them as they
are. -/
theorem Connection.ask_cases (c : Connection) (change : Store → Except Fault Store) :
    (∃ s, change c.store = .ok s ∧
      c.ask change = ({ c with store := s, past := c.store :: c.past }, none)) ∨
    ∃ past r, past ⊆ c.states ∧ c.ask change = ({ c with past }, some r) ∧
      (change c.store = .error r.fault ∨ c.raises c.past.length = some r) := by
  unfold ask
  split
  · next o given => exact .inr ⟨c.past, _, List.subset_cons_self _ _, rfl, .inl given⟩
  · next r raised _ => exact .inr ⟨c.states, r, List.Subset.refl _, rfl, .inr raised⟩
  · next given _ => exact .inr ⟨c.states, _, List.Subset.refl _, rfl, .inl given⟩
  · next s given _ => exact .inl ⟨s, given, rfl⟩

/-- What comes of requests: the connection goes on as it was, and what was raised is caught by a
guard or is of the connection's own. -/
structure Connection.Yields (c : Connection) (x : Connection × Option Raised) : Prop where
  raises : x.1.raises = c.raises
  own : ∀ r, x.2 = some r → r.isCaught = true ∨ ∃ n, c.raises n = some r

theorem Connection.Yields.trans {c c' : Connection} {x : Connection × Option Raised}
    (h : c.Yields (c', none)) (k : c'.Yields x) : c.Yields x :=
  ⟨k.raises.trans h.raises, h.raises ▸ k.own⟩

theorem Connection.ask_yields (c : Connection) (change : Store → Except Fault Store) :
    c.Yields (c.ask change) := by
  unfold ask
  split
  · refine ⟨rfl, ?_⟩
    rintro r ⟨⟩
    exact .inl rfl
  · next r raised _ => exact ⟨rfl, fun r' given => .inr ⟨_, raised.trans given⟩⟩
  · refine ⟨rfl, ?_⟩
    rintro r ⟨⟩
    exact .inl rfl
  · exact ⟨rfl, by simp⟩

theorem Connection.addRows_yields (c : Connection) (now : String)
    (rows : List (Table × List (String × Value))) : c.Yields (c.addRows now rows) := by
  induction rows generalizing c with
  | nil => exact ⟨rfl, by simp [addRows]⟩
  | cons e rest ih =>
    have first := c.ask_yields (·.insertValues e.1 now e.2)
    unfold addRows
    split
    · next c' given =>
      rw [given] at first
      exact first.trans (ih c')
    · exact first

theorem Connection.close_yields (c : Connection) (now run : String) (report : Report) :
    c.Yields (c.close now run report) := by
  have looked := c.ask_yields .ok
  unfold close
  split
  · next c' given =>
    rw [given] at looked
    exact looked.trans (c'.ask_yields _)
  · exact looked

theorem Connection.finish_yields (c : Connection) (now run : String) (result : RunResult)
    (report : Report) : c.Yields (c.finish now run result report) := by
  have added := c.addRows_yields now (result.jobs.flatMap (Store.rowsOf run))
  unfold finish
  split
  · next c' given =>
    rw [given] at added
    exact added.trans (c'.close_yields now run report)
  · exact added

theorem Connection.ok_of_ask {c c' : Connection} {change : Store → Except Fault Store}
    (h : c.ask change = (c', none)) : change c.store = .ok c'.store := by
  rcases c.ask_cases change with ⟨s, put, asked⟩ | ⟨past, r, -, asked, -⟩
  · cases asked.symm.trans h
    exact put
  · cases asked.symm.trans h

end JobMatrix.History
