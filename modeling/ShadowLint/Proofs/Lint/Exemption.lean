import ShadowLint.Proofs.Lint.Visits
import ShadowLint.Proofs.NameTable

/-!
# Exceptions filter the report

Whether a name is exempt is asked in the midst of the check, between the question whether the
source declares the variable and the search through the enclosing scopes.  It could as well be
asked at the end: `check_eq_filter_of_overrides` says that a report under some overrides is the
report under `Exceptions.strict`, under which no name is exempt, without the findings whose name is
exempt.  This needs that a finding still tells its name, which its body does (`shadowedName?`).
-/

namespace ShadowLint.Lint

open Scope (Model ScopeGraph TextRange Variable)

namespace Exceptions

/-- The overrides that make every conventional name reportable again. -/
def strict : Exceptions := withOverrides [("err", false), ("res", false), ("callback", false)]

/-- The last override of a name decides, and without one the name is exempt by convention. -/
theorem isExempt_withOverrides_iff {overrides : List (String × Bool)} {name : String} :
    (withOverrides overrides).isExempt name = true ↔
      overrides.reverse.lookup name = some true ∨
        overrides.reverse.lookup name = none ∧ name ∈ conventional := by
  rw [isExempt, withOverrides, NameTable.find?_insertAll, find?_default]
  cases overrides.reverse.lookup name with
  | none => by_cases known : name ∈ conventional <;> simp [known]
  | some value => simp

theorem isExempt_strict (name : String) : strict.isExempt name = false := by
  rw [← Bool.not_eq_true, strict, isExempt_withOverrides_iff]
  simp only [List.reverse_cons, List.reverse_nil, List.nil_append, List.cons_append,
    lookup_cons_eq_ite, conventional, List.mem_cons]
  grind

end Exceptions

/-! ## The name of a finding -/

theorem shadowingBody_injective {name other : String}
    (same : shadowingBody name = shadowingBody other) : name = other := by
  rw [← String.toList_inj, shadowingBody, shadowingBody, String.toList_append,
    String.toList_append] at same
  exact String.toList_inj.1 (List.append_cancel_right same)

/-- The name that the body of a finding tells, if it is the body of a shadowing. -/
def shadowedName? (finding : Diagnostic) : Option String :=
  let letters := finding.body.toList
  let name := String.ofList (letters.take (letters.length - (shadowingBody "").length))
  if shadowingBody name = finding.body then some name else none

theorem shadowedName?_eq_some_iff {finding : Diagnostic} {name : String} :
    shadowedName? finding = some name ↔ finding.body = shadowingBody name := by
  unfold shadowedName?
  dsimp only
  constructor
  · intro told
    split at told
    next whole =>
      cases told
      exact whole.symm
    next => cases told
  · intro whole
    have length : finding.body.toList.length - (shadowingBody "").length = name.toList.length := by
      rw [whole, shadowingBody, shadowingBody, String.length_append, String.toList_append,
        List.length_append, String.length_toList, String.length_toList, String.length_empty]
      omega
    have letters : finding.body.toList.take name.toList.length = name.toList := by
      rw [whole, shadowingBody, String.toList_append, List.take_left]
    rw [length, letters, String.ofList_toList, if_pos whole.symm]

/-- The findings that are left when exempt names are taken out at the end. -/
def isReported (exceptions : Exceptions) (finding : Diagnostic) : Bool :=
  (shadowedName? finding).all fun name => !exceptions.isExempt name

theorem shadowing?_eq_filter (exceptions : Exceptions) (upper : Scope.Frame) (v : Variable) :
    shadowing? exceptions upper v =
      (shadowing? .strict upper v).filter (isReported exceptions) := by
  have told (place : TextRange) :
      isReported exceptions ⟨Rule.noShadow.findingKind, shadowingBody v.name, place⟩ =
        !exceptions.isExempt v.name := by
    rw [isReported, shadowedName?_eq_some_iff.2 rfl, Option.all_some]
  unfold shadowing?
  cases v.declaration? with
  | none => rfl
  | some place =>
      dsimp only
      rw [Exceptions.isExempt_strict]
      -- a name that the upper scope lacks is dropped on both sides, exempt or not
      cases upper.declares v.name with
      | false => cases exceptions.isExempt v.name <;> rfl
      | true => cases exempt : exceptions.isExempt v.name <;> simp [Option.filter, told, exempt]

theorem findingsAlong_eq_filter (exceptions : Exceptions) (row : List Scope.Frame) :
    findingsAlong exceptions row = (findingsAlong .strict row).filter (isReported exceptions) := by
  cases row with
  | nil => rfl
  | cons inner uppers =>
      rw [findingsAlong, findingsAlong, List.filter_flatMap]
      refine List.flatMap_congr fun upper _ => ?_
      rw [List.filter_filterMap]
      exact List.filterMap_congr fun v _ => shadowing?_eq_filter exceptions upper v

/-- Under any exceptions the report is what is left of that under the strict ones. -/
theorem check_eq_filter (settings : Settings) (exceptions : Exceptions) (model : Model) :
    { settings with exceptions }.check model =
      ({ settings with exceptions := .strict }.check model).filter (isReported exceptions) := by
  rw [check_eq, check_eq]
  change (if settings.enables .noShadow = true then
      model.functionScopes.flatMap (shadowings exceptions model) else []) =
    (if settings.enables .noShadow = true then
      model.functionScopes.flatMap (shadowings .strict model) else []).filter _
  split
  · rw [List.filter_flatMap]
    refine List.flatMap_congr fun id _ => ?_
    rw [shadowings_eq_findingsAlong, shadowings_eq_findingsAlong, findingsAlong_eq_filter]
  · rfl

/-- The report under overrides is the strict report, in its order, without the findings whose name
is exempt: one of which the last override says so, or a conventional one without override.  A
finding tells its name, whatever the name is, so bodies are equal only for equal names; and the name
that a reported finding tells is that of the variable which it is about. -/
theorem check_eq_filter_of_overrides (settings : Settings) (model : Model) :
    (∀ overrides : List (String × Bool),
      { settings with exceptions := .withOverrides overrides }.check model =
          ({ settings with exceptions := .strict }.check model).filter
            (isReported (.withOverrides overrides)) ∧
        ∀ (kind name : String) (place : TextRange),
          isReported (.withOverrides overrides) ⟨kind, shadowingBody name, place⟩ = false ↔
            overrides.reverse.lookup name = some true ∨
              overrides.reverse.lookup name = none ∧ name ∈ Exceptions.conventional) ∧
    (∀ (kind name : String) (place : TextRange),
      shadowedName? ⟨kind, shadowingBody name, place⟩ = some name) ∧
    (∀ name other : String, shadowingBody name = shadowingBody other ↔ name = other) ∧
    ∀ finding ∈ { settings with exceptions := .strict }.check model,
      ∃ id ∈ model.functionScopes, ∃ scope, model.scopes.toList[id.index]? = some scope ∧
        ∃ v ∈ scope.vars, v.declaration? = some finding.range ∧
          shadowedName? finding = some v.name := by
  have tells (kind name : String) (place : TextRange) :
      shadowedName? ⟨kind, shadowingBody name, place⟩ = some name :=
    shadowedName?_eq_some_iff.2 rfl
  refine ⟨fun overrides => ⟨check_eq_filter settings _ model, ?_⟩, tells, ?_, ?_⟩
  · intro kind name place
    rw [isReported, tells, Option.all_some, Bool.not_eq_false',
      Exceptions.isExempt_withOverrides_iff]
  · exact fun name other => ⟨shadowingBody_injective, congrArg shadowingBody⟩
  · intro finding found
    obtain ⟨id, visited, scope, stands, v, declared, place, _, body⟩ :=
      exists_variable_of_mem_check found
    exact ⟨id, visited, scope, stands, v, declared, place, shadowedName?_eq_some_iff.2 body⟩

/-- A function that declares two names of the global scope again, one of them conventional and the
other one what would be said about it. -/
def toldNames : ScopeGraph where
  source := none
  scopes :=
    [⟨none, [⟨"err", [⟨0, 3, by decide⟩]⟩, ⟨shadowingBody "err", [⟨5, 6, by decide⟩]⟩]⟩,
      ⟨some 0, [⟨"err", [⟨10, 13, by decide⟩]⟩, ⟨shadowingBody "err", [⟨15, 16, by decide⟩]⟩]⟩]
  nodes := [⟨.functionExpression, 1, none⟩]

/-- The two findings tell their names apart, so the one can be made exempt, and the other one, which
is about a conventional name, be reported. -/
theorem check_eq_filter_of_toldNames :
    ∃ model, Model.ofGraph toldNames = .ok model ∧
      { Settings.default with
          exceptions := .withOverrides [("err", false), (shadowingBody "err", true)] }.check model =
        [⟨"ShadowedVariable", shadowingBody "err", ⟨10, 13, by decide⟩⟩] ∧
      ⟨"ShadowedVariable", shadowingBody (shadowingBody "err"), ⟨15, 16, by decide⟩⟩ ∈
        { Settings.default with exceptions := .strict }.check model ∧
      ∃ id ∈ model.functionScopes, ∃ scope, model.scopes.toList[id.index]? = some scope ∧
        ∃ v ∈ scope.vars, v.declaration? = some ⟨15, 16, by decide⟩ ∧
          v.name = shadowingBody "err" := by
  let findings : List Diagnostic :=
    [⟨"ShadowedVariable", shadowingBody "err", ⟨10, 13, by decide⟩⟩,
      ⟨"ShadowedVariable", shadowingBody (shadowingBody "err"), ⟨15, 16, by decide⟩⟩]
  obtain ⟨model, loaded, strict⟩ : ∃ model, Model.ofGraph toldNames = .ok model ∧
      { Settings.default with exceptions := .strict }.check model = findings :=
    ⟨_, rfl, by decide +kernel⟩
  obtain ⟨filtered, tells, _, about⟩ := check_eq_filter_of_overrides Settings.default model
  have member : ⟨"ShadowedVariable", shadowingBody (shadowingBody "err"), ⟨15, 16, by decide⟩⟩ ∈
      { Settings.default with exceptions := .strict }.check model := by
    rw [strict]
    exact List.mem_cons_of_mem _ List.mem_cons_self
  refine ⟨model, loaded, ?_, member, ?_⟩
  · rw [(filtered _).1, strict]
    decide +kernel
  · obtain ⟨id, visited, scope, stands, v, declared, place, told⟩ := about _ member
    rw [tells] at told
    exact ⟨id, visited, scope, stands, v, declared, place, (Option.some.inj told).symm⟩

end ShadowLint.Lint
