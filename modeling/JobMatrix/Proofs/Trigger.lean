import JobMatrix.Proofs.Declaration
import JobMatrix.Proofs.Pattern
import JobMatrix.Proofs.Scalar

/-! The events that start the pipeline of a document. Main statement: these are the events of a kind
that the document declares, on a branch that belongs to the language of one of the patterns that it
declares for the kind, if any. -/

namespace JobMatrix

namespace Trigger

/-- The branch of a reference: what follows the path under which branches are kept, if that is there,
and else the whole. -/
def BranchOf (ref branch : String) : Prop :=
  ref = "refs/heads/" ++ branch ∨ ¬ "refs/heads/".toList <+: ref.toList ∧ branch = ref

theorem branchName_append (branch : String) : branchName ("refs/heads/" ++ branch) = branch := by
  have path : "refs/heads/".toList.isPrefixOf ("refs/heads/" ++ branch).toList = true := by
    rw [List.isPrefixOf_iff_prefix, String.toList_append]
    exact List.prefix_append _ _
  rw [branchName, if_pos path, String.toList_append,
    List.drop_left' (show "refs/heads/".toList.length = 11 from rfl), String.ofList_toList]

theorem branchOf_iff {ref branch : String} : BranchOf ref branch ↔ branchName ref = branch := by
  by_cases path : "refs/heads/".toList <+: ref.toList
  · obtain ⟨rest, same⟩ := path
    obtain rfl : ref = "refs/heads/" ++ String.ofList rest := by
      simp only [← String.toList_inj, ← same, String.toList_append, String.toList_ofList]
    rw [branchName_append]
    constructor
    · rintro (same | ⟨lacking, -⟩)
      · exact (String.append_right_inj _).mp same
      · exact absurd ⟨rest, same⟩ lacking
    · rintro rfl
      exact .inl rfl
  · have own : branchName ref = ref := by
      rw [branchName, if_neg (by rwa [List.isPrefixOf_iff_prefix])]
    rw [own]
    constructor
    · rintro (rfl | ⟨-, rfl⟩)
      · exact absurd (by rw [String.toList_append]; exact List.prefix_append _ _) path
      · rfl
    · rintro rfl
      exact .inr ⟨path, rfl⟩

/-- The patterns for a kind of events. -/
def patterns (t : Trigger) (kind : String) : List String :=
  (Dict.get? t.branches (.text kind)).getD []

/-- An event starts a run exactly if its kind is there and its branch, where that matters, fits. -/
theorem starts_iff {t : Trigger} {e : Event} :
    t.starts e = true ↔ .text e.kind ∈ t.kinds ∧ (t.patterns e.kind = [] ∨ e.ref = none ∨
      ∃ ref, e.ref = some ref ∧ ∃ pattern ∈ t.patterns e.kind,
        globMatches pattern (branchName ref) = true) := by
  have known : t.kinds.any (· == .text e.kind) = true ↔ .text e.kind ∈ t.kinds := by
    rw [List.any_eq_true]
    constructor
    · rintro ⟨kind, mem, same⟩
      rw [BEq.comm, Scalar.text_beq, decide_eq_true_iff] at same
      exact same ▸ mem
    · exact fun mem => ⟨_, mem, by rw [Scalar.text_beq]; simp⟩
  rw [← known, starts, judge, patterns]
  cases t.kinds.any (· == .text e.kind) with
  | false => simp
  | true =>
    cases (Dict.get? t.branches (.text e.kind)).getD [] with
    | nil => simp
    | cons first more =>
      cases e.ref with
      | none => simp
      | some ref =>
        have some_ : (∃ ref', some ref = some ref' ∧ ∃ pattern ∈ first :: more,
            globMatches pattern (branchName ref') = true) ↔
            (first :: more).any (fun p => globMatches p (branchName ref)) = true := by
          simp
        rw [some_]
        simp only [Bool.not_true, Bool.false_eq_true, if_false]
        cases (first :: more).any (fun p => globMatches p (branchName ref)) <;> simp

theorem starts_of_branchName {t : Trigger} {kind ref ref' : String}
    (same : branchName ref = branchName ref') :
    t.starts ⟨kind, some ref⟩ = t.starts ⟨kind, some ref'⟩ := by
  rw [Bool.eq_iff_iff]
  simp only [starts_iff, Option.some.injEq, exists_eq_left', same, reduceCtorEq]

end Trigger

namespace Declaration

/-- The part of a document that declares events: under the truth value that the word `on` is read
as, or under this word. -/
def eventsPart (entries : List (Scalar × Value)) : Option Value :=
  (Dict.get? entries (.bool true)).or (Dict.get? entries (.text "on"))

/-- The kinds of events that start a run: those of the default, a single one, the items of a list or
the keys of a mapping. -/
inductive DeclaresKind : Option Value → String → Prop
  | push : DeclaresKind none "push"
  | pullRequest : DeclaresKind none "pull_request"
  | single {v kind} : v.opened = .scalar (.text kind) → DeclaresKind (some v) kind
  | item {v items item kind} : v.opened = .list items → item ∈ items →
      item.opened = .scalar (.text kind) → DeclaresKind (some v) kind
  | key {v entries kind filter} : v.opened = .map entries → (.text kind, filter) ∈ entries →
      DeclaresKind (some v) kind

/-- The patterns for the branches of a kind of events: the items of the list that the filter under
the kind has for them. -/
inductive DeclaresPattern : Option Value → String → String → Prop
  | item {v entries kind filter fields branches items item pattern} :
      v.opened = .map entries → (.text kind, filter) ∈ entries → filter.opened = .map fields →
      Dict.get? fields (.text "branches") = some branches → branches.opened = .list items →
      item ∈ items → item.opened = .scalar (.text pattern) →
      DeclaresPattern (some v) kind pattern

theorem wordOf_eq_ok_iff {v : Value} {s : String} :
    wordOf v = .ok s ↔ v.opened = .scalar (.text s) := by
  unfold wordOf
  split <;> simp_all

theorem mem_patternsOf_iff {v : Value} {patterns : List String} (h : patternsOf v = .ok patterns)
    {pattern : String} : pattern ∈ patterns ↔ ∃ fields branches items item,
      v.opened = .map fields ∧ Dict.get? fields (.text "branches") = some branches ∧
      branches.opened = .list items ∧ item ∈ items ∧ item.opened = .scalar (.text pattern) := by
  unfold patternsOf at h
  split at h
  · next null =>
    cases h
    simp [null]
  · obtain ⟨fields, opened, h⟩ := bind_eq_ok_iff.mp h
    have opened := entriesOf_eq_ok_iff.mp opened
    cases found : Dict.get? fields (.text "branches") with
    | none =>
      rw [found] at h
      cases h
      simp [opened, found]
    | some branches =>
      rw [found] at h
      obtain ⟨items, listed, h⟩ := bind_eq_ok_iff.mp h
      have listed := itemsOf_eq_ok_iff.mp listed
      rw [mem_mapM_ok_iff h]
      simp [opened, found, listed, wordOf_eq_ok_iff]

theorem triggerOf_kinds {v : Value} {t : Trigger} (h : triggerOf v = .ok t) {kind : String} :
    .text kind ∈ t.kinds ↔ DeclaresKind (some v) kind := by
  unfold triggerOf at h
  split at h
  · next kind' opened =>
    cases h
    constructor
    · intro mem
      obtain ⟨⟩ := List.mem_singleton.mp mem
      exact .single opened
    · intro declared
      cases declared <;> simp_all
  · next items opened =>
    obtain ⟨words, read, h⟩ := bind_eq_ok_iff.mp h
    cases h
    have mem : Scalar.text kind ∈ words.map .text ↔ kind ∈ words := by simp
    rw [mem, mem_mapM_ok_iff read]
    constructor
    · rintro ⟨item, mem, word⟩
      exact .item opened mem (wordOf_eq_ok_iff.mp word)
    · intro declared
      cases declared with
      | single opened' => simp_all
      | item opened' mem word =>
        cases opened.symm.trans opened'
        exact ⟨_, mem, wordOf_eq_ok_iff.mpr word⟩
      | key opened' => simp_all
  · next noWord noList =>
    obtain ⟨entries, opened, h⟩ := bind_eq_ok_iff.mp h
    obtain ⟨branches, -, h⟩ := bind_eq_ok_iff.mp h
    cases h
    have opened := entriesOf_eq_ok_iff.mp opened
    constructor
    · intro mem
      obtain ⟨⟨_, filter⟩, mem, rfl⟩ := List.mem_map.mp mem
      exact .key opened mem
    · intro declared
      cases declared with
      | single opened' => exact absurd opened' (noWord kind)
      | item opened' => exact absurd opened' (noList _)
      | key opened' mem =>
        cases opened.symm.trans opened'
        exact List.mem_map_of_mem mem

/-- Where the keys are distinct, leaving out the empty lists loses no item of a list. -/
theorem mem_get?_filter_iff {lists : Dict Scalar (List String)} (apart : lists.Apart)
    {kind pattern : String} :
    pattern ∈ (Dict.get? (lists.filter fun l => !l.2.isEmpty) (.text kind)).getD [] ↔
      ∃ list, (.text kind, list) ∈ lists ∧ pattern ∈ list := by
  constructor
  · intro mem
    cases found : Dict.get? (lists.filter fun l => !l.2.isEmpty) (.text kind) with
    | none => simp [found] at mem
    | some list =>
      obtain ⟨key, mem', same⟩ := Dict.exists_mem_key found
      rw [BEq.comm, Scalar.text_beq, decide_eq_true_iff] at same
      subst same
      exact ⟨list, List.mem_of_mem_filter mem', by simpa [found] using mem⟩
  · rintro ⟨list, mem, mem'⟩
    have kept : (.text kind, list) ∈ lists.filter fun l => !l.2.isEmpty := by
      refine List.mem_filter.mpr ⟨mem, ?_⟩
      simpa using List.ne_nil_of_mem mem'
    have apart' : Dict.Apart (lists.filter fun l => !l.2.isEmpty) :=
      apart.sublist (List.filter_sublist.map _)
    rw [apart'.get?_of_mem kept (by rw [Scalar.text_beq]; simp)]
    exact mem'

theorem triggerOf_patterns {v : Value} {t : Trigger} (h : triggerOf v = .ok t)
    (apart : ∀ entries, v.opened = .map entries → Dict.Apart entries) {kind pattern : String} :
    pattern ∈ t.patterns kind ↔ DeclaresPattern (some v) kind pattern := by
  unfold triggerOf at h
  split at h
  · next opened =>
    cases h
    exact ⟨nofun, fun | .item opened' .. => by simp_all⟩
  · next opened =>
    obtain ⟨words, -, h⟩ := bind_eq_ok_iff.mp h
    cases h
    exact ⟨nofun, fun | .item opened' .. => by simp_all⟩
  · obtain ⟨entries, opened, h⟩ := bind_eq_ok_iff.mp h
    obtain ⟨lists, read, h⟩ := bind_eq_ok_iff.mp h
    cases h
    have opened := entriesOf_eq_ok_iff.mp opened
    have keys : Dict.keys lists = Dict.keys entries  :=
      keys_of_mapM_ok (fun e e' made => by
        obtain ⟨_, -, made⟩ := bind_eq_ok_iff.mp made
        cases made
        rfl) read
    have apart' : Dict.Apart lists := by
      rw [Dict.Apart, keys]
      exact apart entries opened
    rw [Trigger.patterns, mem_get?_filter_iff apart']
    constructor
    · rintro ⟨list, mem, mem'⟩
      obtain ⟨⟨key, filter⟩, there, made⟩ := mapM_ok_mem read mem
      obtain ⟨list', given, made⟩ := bind_eq_ok_iff.mp made
      cases made
      obtain ⟨fields, branches, items, item, h₁, h₂, h₃, h₄, h₅⟩ :=
        (mem_patternsOf_iff given).mp mem'
      exact .item opened there h₁ h₂ h₃ h₄ h₅
    · rintro ⟨opened', there, h₁, h₂, h₃, h₄, h₅⟩
      cases opened.symm.trans opened'
      obtain ⟨⟨key, list⟩, mem, made⟩ := mapM_ok_made read there
      obtain ⟨list', given, made⟩ := bind_eq_ok_iff.mp made
      cases made
      exact ⟨list, mem, (mem_patternsOf_iff given).mpr ⟨_, _, _, _, h₁, h₂, h₃, h₄, h₅⟩⟩

section Read

variable {part : Option Value} {t : Trigger} (h : optional {} triggerOf part = .ok t)

include h

theorem trigger_kinds {kind : String} : .text kind ∈ t.kinds ↔ DeclaresKind part kind := by
  cases part with
  | none =>
    cases h
    constructor
    · intro mem
      obtain rfl | rfl : kind = "push" ∨ kind = "pull_request" := by simpa using mem
      · exact .push
      · exact .pullRequest
    · rintro (_ | _) <;> simp
  | some v => exact triggerOf_kinds h

theorem trigger_patterns (apart : ∀ v kinds, part = some v → v.opened = .map kinds →
    Dict.Apart kinds) {kind pattern : String} :
    pattern ∈ t.patterns kind ↔ DeclaresPattern part kind pattern := by
  cases part with
  | none =>
    cases h
    exact ⟨nofun, nofun⟩
  | some v => exact triggerOf_patterns h (apart v · rfl)

end Read

theorem get?_withTriggerKey (entries : List (Scalar × Value)) :
    Dict.get? (withTriggerKey entries) (.text "on") = eventsPart entries := by
  unfold withTriggerKey eventsPart
  cases Dict.get? entries (.bool true) with
  | none => rfl
  | some v => exact Dict.get?_put_self _ v rfl

theorem build_trigger {doc : Value} {p : Pipeline} (h : build doc = .ok p)
    {entries : List (Scalar × Value)} (opened : doc.opened = .map entries) :
    optional {} triggerOf (eventsPart entries) = .ok p.trigger := by
  rw [← get?_withTriggerKey]
  unfold build at h
  rw [opened] at h
  obtain ⟨_, -, h⟩ := bind_eq_ok_iff.mp h
  obtain ⟨_, -, h⟩ := bind_eq_ok_iff.mp h
  obtain ⟨_, -, h⟩ := bind_eq_ok_iff.mp h
  obtain ⟨_, -, h⟩ := bind_eq_ok_iff.mp h
  obtain ⟨trigger, read, h⟩ := bind_eq_ok_iff.mp h
  obtain ⟨_, -, h⟩ := bind_eq_ok_iff.mp h
  cases h
  exact read

/-- A document with one job, which a push to a branch of the pattern starts. -/
def onPush (pattern : String) : Value :=
  .map [(.bool true, .object [("push", .object [("branches", .list [.text pattern])])]),
    (.text "jobs", .object [("job", .object [("steps", .list [.object [("run", .text "make")]])])])]

/-- An event starts the pipeline of a document exactly if its kind is declared and the kind has no
patterns, the event no branch, or the branch belongs to the language of one of the patterns. The path
under which branches are kept makes no difference. -/
theorem starts_iff_declared {doc : Value} {p : Pipeline} (accepted : build doc = .ok p)
    {entries : List (Scalar × Value)} (opened : doc.opened = .map entries)
    (apart : ∀ v kinds, eventsPart entries = some v → v.opened = .map kinds → Dict.Apart kinds)
    (e : Event) :
    (p.trigger.starts e = true ↔ DeclaresKind (eventsPart entries) e.kind ∧
      ((∀ pattern, ¬ DeclaresPattern (eventsPart entries) e.kind pattern) ∨ e.ref = none ∨
        ∃ ref branch pattern signs, e.ref = some ref ∧ Trigger.BranchOf ref branch ∧
          DeclaresPattern (eventsPart entries) e.kind pattern ∧
          Glob.Spells pattern.toList signs ∧ Glob.Language signs branch.toList)) ∧
    ∀ branch, ¬ "refs/heads/".toList <+: branch.toList →
      p.trigger.starts ⟨e.kind, some branch⟩ =
        p.trigger.starts ⟨e.kind, some ("refs/heads/" ++ branch)⟩ := by
  have read := build_trigger accepted opened
  have patterns := @trigger_patterns _ _ read apart e.kind
  constructor
  · rw [Trigger.starts_iff, trigger_kinds read, List.eq_nil_iff_forall_not_mem]
    simp only [patterns]
    refine and_congr_right fun _ => or_congr_right (or_congr_right ⟨?_, ?_⟩)
    · rintro ⟨ref, given, pattern, declared, fits⟩
      obtain ⟨signs, spelt, sound⟩ := Glob.globMatches_iff.mp fits
      exact ⟨ref, _, pattern, signs, given, Trigger.branchOf_iff.mpr rfl, declared, spelt, sound⟩
    · rintro ⟨ref, branch, pattern, signs, given, own, declared, spelt, sound⟩
      refine ⟨ref, given, pattern, declared, ?_⟩
      rw [Trigger.branchOf_iff.mp own, Glob.globMatches_iff]
      exact ⟨signs, spelt, sound⟩
  · intro branch bare
    apply Trigger.starts_of_branchName
    rw [Trigger.branchName_append]
    exact Trigger.branchOf_iff.mp (.inr ⟨bare, rfl⟩)

/-- A push to a branch of a pattern with a class starts the run, by either name of the branch. -/
theorem starts_of_numbered_branch : ∃ p, build (onPush "v[0-9]*") = .ok p ∧
    p.trigger.starts ⟨"push", some "refs/heads/v1/x"⟩ = true ∧
    p.trigger.starts ⟨"push", some "v1/x"⟩ = true := by
  have built : (build (onPush "v[0-9]*")).toOption.isSome = true := by decide +kernel
  obtain ⟨p, read⟩ := Option.isSome_iff_exists.mp built
  have accepted := toOption_eq_some_iff.mp read
  have spelt : Glob.Spells "v[0-9]*".toList [.plain 'v', .group false "0-9".toList, .many] :=
    .plain (by decide) (by decide) (by decide)
      (.group (@Glob.Encloses.listing '0' ['-', '9'] ['*'] (by decide) (by decide)) (.many .nil))
  have listed : Glob.Lists "0-9".toList '1' := .inside (by decide) (by decide)
  have unmarked (r : List Char) : Glob.skipEmpty "0-9".toList ≠ '!' :: r := by simp [Glob.skipEmpty]
  have language : Glob.Language [.plain 'v', .group false "0-9".toList, .many] "v1/x".toList :=
    .plain 'v' (.group (.listed unmarked listed) (.many ['/', 'x'] .nil))
  obtain ⟨decided, alike⟩ := starts_iff_declared accepted rfl
    (fun v kinds given opened => by
      cases given
      cases opened
      exact List.pairwise_singleton _ _)
    ⟨"push", some "refs/heads/v1/x"⟩
  have starts := decided.mpr ⟨.key rfl (.head _), .inr (.inr ⟨_, "v1/x", "v[0-9]*", _, rfl,
    .inl rfl, .item rfl (.head _) rfl rfl rfl (.head _) rfl, spelt, language⟩)⟩
  exact ⟨p, accepted, starts, (alike "v1/x" (by decide)).trans starts⟩

/-- A class that lists a character, after an empty range and a mark of negation, refuses it. -/
theorem listed_branch_does_not_start : ∃ p, build (onPush "[z-a!b]") = .ok p ∧
    DeclaresKind (eventsPart (onPush "[z-a!b]").entries) "push" ∧
    DeclaresPattern (eventsPart (onPush "[z-a!b]").entries) "push" "[z-a!b]" ∧
    Glob.Spells "[z-a!b]".toList [.group false "z-a!b".toList] ∧ Glob.Lists "z-a!b".toList 'b' ∧
    p.trigger.starts ⟨"push", some "b"⟩ = false := by
  have refused : ((build (onPush "[z-a!b]")).toOption.map fun p =>
      p.trigger.starts ⟨"push", some "b"⟩) = some false := by decide +kernel
  obtain ⟨p, read, refused⟩ := Option.map_eq_some_iff.mp refused
  exact ⟨p, toOption_eq_some_iff.mp read, .key rfl (.head _),
    .item rfl (.head _) rfl rfl rfl (.head _) rfl,
    .group (@Glob.Encloses.listing 'z' ['-', 'a', '!', 'b'] [] (by decide) (by decide)) .nil,
    .after (.later nofun (.itself nofun)), refused⟩

end Declaration

end JobMatrix
