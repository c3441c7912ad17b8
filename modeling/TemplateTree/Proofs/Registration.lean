import Mathlib.Data.List.Nodup
import Mathlib.Data.List.TakeDrop
import TemplateTree.Proofs.Recognition
import TemplateTree.Registry.Change

/-!
# Registering rules

`Call` says once what a call that registers a rule can do to a table. From it follow what holds of every
table that is `Reached`, and how the new rule changes what tags are resolved to. The main statement is
`attempt_reached`.
-/

namespace TemplateTree.Registry

open TagRule

variable {registry : Registry} {rule : TagRule} {before : Option Text} {tag : Text}

/-! ## One call -/

theorem Change.run_insertBefore {name : Text} (front back : List TagRule)
    (split : registry.rules = front ++ back) :
    (Change.insertBefore name rule front.length back).run registry =
      if back.dropWhile (·.name ≠ name) = [] then .error (.unknownRule name) registry
      else .ok () ⟨front ++ (back.takeWhile (·.name ≠ name) ++ rule :: back.dropWhile (·.name ≠ name))⟩ := by
  induction back generalizing front with
  | nil => rfl
  | cons existing back ih =>
      rw [insertBefore]
      by_cases named : existing.name = name
      · simp [named, insertAt, split]
      · have shifted := ih (front ++ [existing]) (by simpa using split)
        rw [List.length_append, List.length_singleton] at shifted
        rw [if_neg named, shifted]
        simp [named]

theorem attempt_eq (registry : Registry) (rule : TagRule) (before : Option Text) :
    registry.attempt rule before = match registry.register rule before with
      | .ok changed => (changed, none)
      | .error error => (registry, some error) := by
  simp only [attempt, Change.register, register, EStateM.run_bind, EStateM.run_get]
  by_cases taken : registry.names.contains rule.name = true
  · rw [if_pos taken, if_pos taken]
    rfl
  · rw [if_neg taken, if_neg taken]
    cases before with
    | none => rfl
    | some name =>
        have inserted : (Change.insertBefore name rule 0 registry.rules).run registry = _ :=
          Change.run_insertBefore [] registry.rules rfl
        simp only [EStateM.run_bind, EStateM.run_get]
        rw [inserted, List.span_eq_takeWhile_dropWhile]
        cases registry.rules.dropWhile (·.name ≠ name) <;> rfl

/-- What a call can do: it fails and changes nothing, or it puts the rule ahead of the named one, or at
the end. -/
inductive Call (registry : Registry) (rule : TagRule) : Option Text → Registry × Option RegistryError → Prop where
  | taken {before : Option Text} (taken : rule.name ∈ registry.names) :
      Call registry rule before (registry, some (.nameTaken rule.name))
  | unknown {name : Text} (free : rule.name ∉ registry.names) (missing : name ∉ registry.names) :
      Call registry rule (some name) (registry, some (.unknownRule name))
  | inserted {front back : List TagRule} (free : rule.name ∉ registry.names)
      (split : registry.rules = front ++ back) :
      Call registry rule (back.head?.map TagRule.name) (⟨front ++ rule :: back⟩, none)

theorem call_attempt (registry : Registry) (rule : TagRule) (before : Option Text) :
    Call registry rule before (registry.attempt rule before) := by
  rw [attempt_eq]
  unfold register
  by_cases taken : rule.name ∈ registry.names
  · rw [if_pos (List.contains_iff_mem.mpr taken)]
    exact .taken taken
  · rw [if_neg (mt List.contains_iff_mem.mp taken)]
    cases before with
    | none => exact .inserted taken (List.append_nil _).symm
    | some name =>
        have split := List.takeWhile_append_dropWhile (p := (·.name ≠ name)) (l := registry.rules)
        dsimp only
        rw [List.span_eq_takeWhile_dropWhile]
        cases behind : registry.rules.dropWhile (·.name ≠ name) with
        | nil =>
            refine .unknown taken fun member => ?_
            obtain ⟨other, member, named⟩ := List.mem_map.mp member
            have passed := List.dropWhile_eq_nil_iff.mp behind other member
            simp [named] at passed
        | cons next back =>
            have named := List.head?_dropWhile_not (·.name ≠ name) registry.rules
            rw [behind] at named split
            obtain rfl : next.name = name := by simpa using named
            exact .inserted taken split.symm

namespace Call

variable {outcome : Registry × Option RegistryError}

theorem failed_iff (call : Call registry rule before outcome) : outcome.2 ≠ none ↔
    rule.name ∈ registry.names ∨ ∃ name ∈ before, name ∉ registry.names := by
  cases call with
  | taken taken => exact iff_of_true (by simp) (.inl taken)
  | @unknown name free missing => exact iff_of_true (by simp) (.inr ⟨name, rfl, missing⟩)
  | inserted free split =>
      refine iff_of_false (not_not.mpr rfl) ?_
      rintro (taken | ⟨name, named, missing⟩)
      · exact free taken
      · obtain ⟨next, first, rfl⟩ := Option.map_eq_some_iff.mp named
        rw [names, split] at missing
        exact missing (List.mem_map_of_mem (List.mem_append_right _ (List.mem_of_mem_head? first)))

theorem unchanged (call : Call registry rule before outcome) (failed : outcome.2 ≠ none) :
    outcome.1 = registry := by
  cases call with
  | taken => rfl
  | unknown => rfl
  | inserted => exact absurd rfl failed

theorem exists_insert (call : Call registry rule before outcome) (succeeded : outcome.2 = none) :
    ∃ front back, registry.rules = front ++ back ∧ outcome.1 = ⟨front ++ rule :: back⟩ ∧
      back.head?.map TagRule.name = before := by
  cases call with
  | taken => cases succeeded
  | unknown => cases succeeded
  | inserted free split => exact ⟨_, _, split, rfl, rfl⟩

theorem nodup (call : Call registry rule before outcome) (distinct : registry.names.Nodup) :
    outcome.1.names.Nodup := by
  cases call with
  | taken => exact distinct
  | unknown => exact distinct
  | inserted free split =>
      rw [names, split] at free distinct
      rw [names, List.map_append, List.map_cons, List.nodup_middle, List.nodup_cons, ← List.map_append]
      exact ⟨free, distinct⟩

end Call

/-! ## All tables that are reached -/

/-- The tables that calls make from the empty or the standard one, also by calls that fail. -/
inductive Reached : Registry → Prop where
  | empty : Reached .empty
  | standard : Reached .standard
  | attempt {registry : Registry} (reached : Reached registry) (rule : TagRule) (before : Option Text) :
      Reached (registry.attempt rule before).1

theorem Reached.nodup (reached : registry.Reached) : registry.names.Nodup := by
  induction reached with
  | empty => exact List.nodup_nil
  | standard =>
      unfold names Registry.standard builtIn
      decide
  | attempt reached rule before ih => exact (call_attempt _ rule before).nodup ih

/-! ## Resolving tags -/

/-- A rule that is put into a table decides the tags that it accepts and no rule ahead of it does. -/
theorem resolve_insert (front back : List TagRule) (rule : TagRule) (tag : Text) :
    (⟨front ++ rule :: back⟩ : Registry).resolve tag =
      if rule.pattern tag = true ∧ ∀ other ∈ front, other.pattern tag = false then .ok rule
      else (⟨front ++ back⟩ : Registry).resolve tag := by
  split
  next decides => exact resolve_of_split front rfl decides.2 decides.1
  next passed =>
    have same : (front ++ rule :: back).find? (·.pattern tag) = (front ++ back).find? (·.pattern tag) := by
      rw [List.find?_append, List.find?_append]
      cases ahead : front.find? (·.pattern tag) with
      | some other => rfl
      | none =>
          have refuse : ∀ other ∈ front, other.pattern tag = false := by
            simpa using List.find?_eq_none.mp ahead
          have refuses : rule.pattern tag = false := by
            by_contra accepts
            exact passed ⟨by simpa using accepts, refuse⟩
          rw [List.find?_cons, refuses]
    rw [resolve, resolve, same]

theorem resolve_end {other : TagRule} (resolved : registry.resolve tag = .ok other) (rule : TagRule) :
    (⟨registry.rules ++ [rule]⟩ : Registry).resolve tag = .ok other := by
  obtain ⟨member, accepts⟩ := accepts_of_resolve resolved
  rw [resolve_insert, if_neg, List.append_nil, resolved]
  rintro ⟨-, refuse⟩
  rw [refuse other member] at accepts
  cases accepts

/-! ## The order of the built-in rules -/

theorem length_accepting (tag : Text) : (standard.accepting tag).length ≤ 1 := by
  have apart := pairwise_refuses.filter (·.pattern tag)
  unfold accepting
  cases found : standard.rules.filter (·.pattern tag) with
  | nil => exact Nat.zero_le 1
  | cons first rest =>
      cases rest with
      | nil => exact Nat.le_refl 1
      | cons second rest =>
          have accepts : ∀ rule ∈ first :: second :: rest, rule.pattern tag = true := by
            rw [← found]
            exact fun rule member => (List.mem_filter.mp member).2
          change (standard.rules.filter (·.pattern tag)).Pairwise _ at apart
          rw [found] at apart
          have both := (List.pairwise_cons.mp apart).1 second List.mem_cons_self tag
          exact absurd ⟨accepts first (by simp), accepts second (by simp)⟩ both

theorem eq_of_accepts {other : TagRule} (known : rule ∈ builtIn) (accepts : rule.pattern tag = true)
    (known' : other ∈ builtIn) (accepts' : other.pattern tag = true) : rule = other := by
  have resolved := resolve_iff.mpr ⟨known, accepts⟩
  rw [resolve_iff.mpr ⟨known', accepts'⟩] at resolved
  exact (Except.ok.inj resolved).symm

theorem find?_eq_some_iff {rules : List TagRule} (known : ∀ rule ∈ rules, rule ∈ builtIn) :
    rules.find? (·.pattern tag) = some rule ↔ rule ∈ rules ∧ rule.pattern tag = true := by
  constructor
  · intro found
    have accepts := List.find?_some found
    exact ⟨List.mem_of_find?_eq_some found, accepts⟩
  · rintro ⟨member, accepts⟩
    cases found : rules.find? (·.pattern tag) with
    | none => exact absurd accepts (List.find?_eq_none.mp found rule member)
    | some other =>
        have accepts' := List.find?_some found
        have known' := known other (List.mem_of_find?_eq_some found)
        rw [eq_of_accepts (known rule member) accepts known' accepts']

theorem resolve_perm {rules others : List TagRule} (perm : rules.Perm others)
    (known : ∀ rule ∈ rules, rule ∈ builtIn) (front back : List TagRule) (tag : Text) :
    (⟨front ++ (rules ++ back)⟩ : Registry).resolve tag = (⟨front ++ (others ++ back)⟩ : Registry).resolve tag := by
  have known' : ∀ rule ∈ others, rule ∈ builtIn := fun rule member => known rule (perm.mem_iff.mpr member)
  have same : rules.find? (·.pattern tag) = others.find? (·.pattern tag) := by
    apply Option.ext
    intro rule
    rw [find?_eq_some_iff known, find?_eq_some_iff known', perm.mem_iff]
  rw [resolve, resolve, List.find?_append, List.find?_append, List.find?_append, List.find?_append, same]

/-! ## Registration -/

/-- In every table that is reached names are distinct, a call that fails changes nothing, and one that
succeeds only adds its rule, which decides the tags that it accepts and no rule ahead of it does. At the
end of the table it changes no tag that was resolved. The built-in rules may stand in any order. -/
theorem attempt_reached (reached : registry.Reached) (rule : TagRule) (before : Option Text) :
    registry.names.Nodup ∧
      ((registry.attempt rule before).2 ≠ none ↔
        rule.name ∈ registry.names ∨ ∃ name ∈ before, name ∉ registry.names) ∧
      ((registry.attempt rule before).2 ≠ none → (registry.attempt rule before).1 = registry) ∧
      ((registry.attempt rule before).2 = none → ∃ front back, registry.rules = front ++ back ∧
        (registry.attempt rule before).1.rules = front ++ rule :: back ∧
        back.head?.map TagRule.name = before ∧
        (∀ tag, (registry.attempt rule before).1.resolve tag =
          if rule.pattern tag = true ∧ ∀ other ∈ front, other.pattern tag = false then .ok rule
          else registry.resolve tag) ∧
        (before = none → ∀ tag other, registry.resolve tag = .ok other →
          (registry.attempt rule before).1.resolve tag = .ok other)) ∧
      (∀ tag, (standard.accepting tag).length ≤ 1) ∧
      ∀ rules others front back : List TagRule, rules.Perm others → (∀ rule ∈ rules, rule ∈ builtIn) →
        ∀ tag, (⟨front ++ (rules ++ back)⟩ : Registry).resolve tag =
          (⟨front ++ (others ++ back)⟩ : Registry).resolve tag := by
  have call := call_attempt registry rule before
  refine ⟨reached.nodup, call.failed_iff, call.unchanged, fun succeeded => ?_, length_accepting,
    fun rules others front back perm known => resolve_perm perm known front back⟩
  obtain ⟨front, back, split, extended, ahead⟩ := call.exists_insert succeeded
  rw [extended]
  refine ⟨front, back, split, rfl, ahead, fun tag => ?_, ?_⟩
  · rw [resolve_insert, ← split]
  · rintro rfl tag other resolved
    obtain rfl : back = [] := by simpa using ahead
    rw [← List.append_nil front, ← split]
    exact resolve_end resolved rule

theorem attempt_reached_end :
    let rule : TagRule := ⟨"any".toList, .anything, .plain⟩
    standard.Reached ∧ (standard.attempt rule none).2 = none ∧
      standard.resolve "else".toList = .ok builtIn[1] ∧
      (standard.attempt rule none).1.resolve "else".toList = .ok builtIn[1] := by
  intro rule
  have resolved : standard.resolve "else".toList = .ok builtIn[1] := rfl
  obtain ⟨-, -, -, inserts, -⟩ := attempt_reached .standard rule none
  obtain ⟨front, back, -, -, -, -, kept⟩ := inserts rfl
  exact ⟨.standard, rfl, resolved, kept rfl _ _ resolved⟩

end TemplateTree.Registry
