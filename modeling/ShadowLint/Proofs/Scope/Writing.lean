import ShadowLint.Lint.Document
import ShadowLint.Proofs.Json.Compact
import ShadowLint.Proofs.Scope.Schema
import ShadowLint.Scope.Graph.Encode

/-!
# Scope-graph documents that were written

What is written for a graph stands for the graph, and its compact text is one of the texts of
what is written.  So every graph is read back from its text, whatever its source, its names and
its numbers are, and a text that was accepted may be replaced by the text of the graph that was
found in it.
-/

namespace ShadowLint.Scope

open ShadowLint.Json

variable {α : Type}

/-- What a writer writes has a compact text and stands for what was to be written. -/
structure Expresses (encode : α → Value) (meaning : Meaning α) : Prop where
  compacts : ∀ content, (encode content).Compacts
  means : ∀ content, meaning (encode content) content

theorem expresses_string : Expresses Value.string MeansText where
  compacts := compacts_string
  means _ := .mk

theorem expresses_natural32 : Expresses encodeNatural32 MeansNatural32 where
  compacts n := compacts_ofNat n.toNat
  means := means_ofNat

theorem expresses_option {encode : α → Value} {meaning : Meaning α}
    (expresses : Expresses encode meaning) (notNull : ∀ content, encode content ≠ .null) :
    Expresses (encodeOption encode) (MeansNullable meaning) where
  compacts
    | none => compacts_null
    | some content => expresses.compacts content
  means
    | none => .null
    | some content => .some (notNull content) (expresses.means content)

theorem expresses_list {encode : α → Value} {meaning : Meaning α}
    (expresses : Expresses encode meaning) :
    Expresses (fun contents => .array (contents.map encode)) (MeansList meaning) where
  compacts contents := compacts_array (List.forall_mem_map.2 fun content _ =>
    expresses.compacts content)
  means contents := by
    refine .mk ?_
    rw [List.forall₂_map_left_iff, List.forall₂_same]
    exact fun content _ => expresses.means content

theorem expresses_range : Expresses encodeRange MeansRange where
  compacts _ := compacts_array (List.forall_mem_cons.2
    ⟨expresses_natural32.compacts _, List.forall_mem_singleton.2 (expresses_natural32.compacts _)⟩)
  means _ := .mk (expresses_natural32.means _) (expresses_natural32.means _)

theorem expresses_kind : Expresses (fun kind : NodeKind => .string kind.name) MeansKind where
  compacts kind := compacts_string kind.name
  means kind := ⟨kind.name, .inl rfl, ofName_eq_iff.1 (ofName_name kind)⟩

theorem expresses_variable : Expresses encodeVariable MeansVariable where
  compacts v := compacts_object (List.forall_mem_cons.2 ⟨expresses_string.compacts v.name,
    List.forall_mem_singleton.2 ((expresses_list expresses_range).compacts v.identifiers)⟩)
  means v := ⟨_, _, .cons rfl (.cons rfl .nil), .given (expresses_string.means v.name),
    .given ((expresses_list expresses_range).means v.identifiers)⟩

theorem expresses_parent :
    Expresses (encodeOption encodeNatural32) (MeansNullable MeansNatural32) :=
  expresses_option expresses_natural32 fun _ null => by cases null

theorem expresses_nodeRange : Expresses (encodeOption encodeRange) (MeansNullable MeansRange) :=
  expresses_option expresses_range fun _ null => by cases null

theorem expresses_scope : Expresses encodeScope MeansScope where
  compacts entry := compacts_object (List.forall_mem_cons.2
    ⟨expresses_parent.compacts entry.parent,
      List.forall_mem_singleton.2 ((expresses_list expresses_variable).compacts entry.vars)⟩)
  means entry := ⟨_, _, .cons rfl (.cons rfl .nil), .given (expresses_parent.means entry.parent),
    .given ((expresses_list expresses_variable).means entry.vars)⟩

theorem expresses_node : Expresses encodeNode MeansNode where
  compacts entry := compacts_object (List.forall_mem_cons.2
    ⟨expresses_kind.compacts entry.kind, List.forall_mem_cons.2
      ⟨expresses_natural32.compacts entry.scope,
        List.forall_mem_singleton.2 (expresses_nodeRange.compacts entry.range)⟩⟩)
  means entry := ⟨_, _, _, .cons rfl (.cons rfl (.cons rfl .nil)),
    .given (expresses_kind.means entry.kind), .given (expresses_natural32.means entry.scope),
    .given (expresses_nodeRange.means entry.range)⟩

/-- An absent source is left out, and an absent member stands for no source. -/
theorem expresses_graph : Expresses encodeGraph MeansGraph where
  compacts graph := by
    have scopes := (expresses_list expresses_scope).compacts graph.scopes
    have nodes := (expresses_list expresses_node).compacts graph.nodes
    obtain ⟨source, entries, visited⟩ := graph
    cases source with
    | none =>
        exact compacts_object
          (List.forall_mem_cons.2 ⟨scopes, List.forall_mem_singleton.2 nodes⟩)
    | some source =>
        exact compacts_object (List.forall_mem_cons.2 ⟨expresses_string.compacts source,
          List.forall_mem_cons.2 ⟨scopes, List.forall_mem_singleton.2 nodes⟩⟩)
  means graph := by
    have scopes := (expresses_list expresses_scope).means graph.scopes
    have nodes := (expresses_list expresses_node).means graph.nodes
    obtain ⟨source, entries, visited⟩ := graph
    cases source with
    | none =>
        exact ⟨_, _, _, .cons rfl (.cons rfl (.cons rfl .nil)), .absent rfl, .given scopes,
          .given nodes⟩
    | some source =>
        exact ⟨_, _, _, .cons rfl (.cons rfl (.cons rfl .nil)),
          .given (.some nofun (expresses_string.means source)), .given scopes, .given nodes⟩

/-! ## Texts -/

/-- A graph is read back from its text. -/
theorem ofText_text (graph : ScopeGraph) : ScopeGraph.ofText graph.text = .ok graph :=
  (ofText_eq_ok_iff (expresses_graph.compacts graph).renders graph).2 (expresses_graph.means graph)

/-- Texts in which the same graph is found are linted alike. -/
theorem lint_congr {text other : String} (same : ScopeGraph.ofText text = ScopeGraph.ofText other)
    (settings : Lint.Settings) (filename : String) :
    settings.lint filename text = settings.lint filename other := by
  unfold Lint.Settings.lint Model.ofText
  rw [same]

/-- Every graph is read back from its text.  In place of a text that is accepted the text of its
graph may be used: the same graph is found in it, and so is written again in the same way, and
linting it gives the same messages or the same refusal. -/
theorem text_round_trip :
    (∀ graph : ScopeGraph, ScopeGraph.ofText graph.text = .ok graph) ∧
      ∀ (text : String) (graph : ScopeGraph), ScopeGraph.ofText text = .ok graph →
        ∃ again, ScopeGraph.ofText graph.text = .ok again ∧ again = graph ∧
          again.text = graph.text ∧
          ∀ (settings : Lint.Settings) (filename : String),
            settings.lint filename graph.text = settings.lint filename text := by
  refine ⟨ofText_text, fun text graph found => ?_⟩
  have same : ScopeGraph.ofText graph.text = ScopeGraph.ofText text := by
    rw [ofText_text, found]
  exact ⟨graph, ofText_text graph, rfl, rfl, lint_congr same⟩

/-- A text that is not the one that is written for its graph. -/
theorem text_round_trip_of_shuffledText :
    ScopeGraph.ofText shuffledText = .ok loneScope ∧
      loneScope.text =
        "\x7b\"scopes\":[\x7b\"parent\":null,\"variables\":[]\x7d],\"nodes\":[]\x7d" ∧
      ∃ again, ScopeGraph.ofText loneScope.text = .ok again ∧ again = loneScope ∧
        again.text = loneScope.text ∧
        ∀ (settings : Lint.Settings) (filename : String),
          settings.lint filename loneScope.text = settings.lint filename shuffledText := by
  have found := (ofText_eq_ok_iff shuffledMembers_renders loneScope).2 shuffledMembers_means
  exact ⟨found, by decide, text_round_trip.2 shuffledText loneScope found⟩

end ShadowLint.Scope
