import Mathlib.Data.List.Forall2
import ShadowLint.Derive.Formats
import ShadowLint.Proofs.Outcome

/-!
# The formats of a method are those at its endings

A way through a method ends at an expression that is no block and no branch, or at a block that does
not end in an expression.  `blockEndings` lists these endings from the first way to the last, as the
branches stand in the source.  The formats that are collected are those at the endings, and
collecting is refused at the first ending where there is none (`Expr.formats_eq_mapM`).  The tails
among the endings are those that some choice of branches leads to (`Method.reaches_iff`).

Blocks lead to the expressions that they end in, which are not their direct parts; so the proofs are
by `Expr.induction`, in which a block passes on what holds of its result.
-/

namespace ShadowLint.Derive

/-! ## Where a body comes to an end -/

/-- The expression that a block ends in, if it ends in one. -/
def resultOf? (body : List Statement) : Option Expr := body.getLast?.bind Statement.expr?

/-- A place where a way through an expression ends. -/
inductive Ending where
  /-- An expression that is no block and no branch. -/
  | tail (expr : Expr)
  /-- A block that does not end in an expression. -/
  | unfinished (body : List Statement)

theorem Statement.sizeOf_expr?_lt {statement : Statement} {expr : Expr}
    (found : statement.expr? = some expr) : sizeOf expr < sizeOf statement := by
  cases statement with
  | binding name => cases found
  | item name => cases found
  | closed inner => cases inner <;> cases found <;> simp
  | bare inner =>
      unfold Statement.expr? at found
      split at found <;> cases found <;> simp_all

theorem sizeOf_resultOf?_lt {body : List Statement} {expr : Expr}
    (found : resultOf? body = some expr) : sizeOf expr < sizeOf body := by
  obtain ⟨last, ends, result⟩ := Option.bind_eq_some_iff.1 found
  have inside := List.sizeOf_lt_of_mem (List.mem_of_getLast? ends)
  have smaller := Statement.sizeOf_expr?_lt result
  omega

mutual

/-- The places where the ways through an expression end, from the first way to the last. -/
def Expr.endings : Expr → List Ending
  | .block body => blockEndings body
  | .ifThen consequence => blockEndings consequence
  | .ifElse consequence alternative => blockEndings consequence ++ alternative.endings
  | .select arms => arms.attach.flatMap fun ⟨arm, _⟩ => arm.endings
  | expr => [.tail expr]
termination_by expr => sizeOf expr

/-- The places where the ways through a block end: those of its result. -/
def blockEndings (body : List Statement) : List Ending :=
  match _ : resultOf? body with
  | some expr => expr.endings
  | none => [.unfinished body]
termination_by sizeOf body
decreasing_by exact sizeOf_resultOf?_lt (by assumption)

end

theorem endings_select (arms : List Expr) :
    (Expr.select arms).endings = arms.flatMap Expr.endings := by
  rw [Expr.endings, List.flatMap_subtype, List.unattach_attach]
  intro arm member
  rfl

theorem blockEndings_eq (body : List Statement) :
    blockEndings body =
      match resultOf? body with
      | some expr => expr.endings
      | none => [.unfinished body] := by
  rw [blockEndings]
  split
  next found => rw [found]
  next absent => rw [absent]

/-- An expression that is no block and no branch is itself what a way through it ends in. -/
def Expr.IsTail : Expr → Prop
  | .block _ | .ifThen _ | .ifElse _ _ | .select _ => False
  | _ => True

theorem Expr.IsTail.endings {expr : Expr} (isTail : expr.IsTail) : expr.endings = [.tail expr] := by
  cases expr <;> simp_all [IsTail, Expr.endings]

/-- What holds of tails, and of an expression if it holds of the results of its branches, holds of
every expression. -/
theorem Expr.induction {motive : Expr → Prop} (tail : ∀ expr : Expr, expr.IsTail → motive expr)
    (block : ∀ body, (∀ expr, resultOf? body = some expr → motive expr) → motive (.block body))
    (ifThen : ∀ body, (∀ expr, resultOf? body = some expr → motive expr) → motive (.ifThen body))
    (ifElse : ∀ body alternative, (∀ expr, resultOf? body = some expr → motive expr) →
      motive alternative → motive (.ifElse body alternative))
    (select : ∀ arms, (∀ arm ∈ arms, motive arm) → motive (.select arms)) :
    ∀ expr, motive expr
  | .block body => block body fun expr found =>
      have := sizeOf_resultOf?_lt found
      Expr.induction tail block ifThen ifElse select expr
  | .ifThen body => ifThen body fun expr found =>
      have := sizeOf_resultOf?_lt found
      Expr.induction tail block ifThen ifElse select expr
  | .ifElse body alternative =>
      ifElse body alternative
        (fun expr found =>
          have := sizeOf_resultOf?_lt found
          Expr.induction tail block ifThen ifElse select expr)
        (Expr.induction tail block ifThen ifElse select alternative)
  | .select arms => select arms fun arm member =>
      have := List.sizeOf_lt_of_mem member
      Expr.induction tail block ifThen ifElse select arm
  | .macroCall path arguments delimiter => tail _ trivial
  | .unsafeBlock body => tail _ trivial
  | .parenthesized inner => tail _ trivial
  | .returning value => tail _ trivial
  | .call name => tail _ trivial
  | .literal text => tail _ trivial
termination_by expr => sizeOf expr
decreasing_by
  all_goals
    simp only [Expr.block.sizeOf_spec, Expr.ifThen.sizeOf_spec, Expr.ifElse.sizeOf_spec,
      Expr.select.sizeOf_spec]
    omega

/-! ## What stands at the ends -/

/-- The first token tree of a call of `format!` that stands at an ending. -/
inductive Makes : Ending → TokenTree → Prop
  | call {path : String} {first : TokenTree} {rest : List TokenTree} {delimiter : Delimiter} :
      compact path = "format" → Makes (.tail (.macroCall path (first :: rest) delimiter)) first

/-- Why no format stands at an ending. -/
inductive Offends : Ending → FormatError → Prop
  | unfinished {body : List Statement} : Offends (.unfinished body) .noResult
  | empty {path : String} {delimiter : Delimiter} :
      compact path = "format" → Offends (.tail (.macroCall path [] delimiter)) .noFormat
  | other {expr : Expr} :
      (∀ path arguments delimiter, expr = .macroCall path arguments delimiter →
        compact path ≠ "format") →
      Offends (.tail expr) .otherResult

theorem formatOfCall_eq_ok_iff {path : String} {arguments : List TokenTree} {format : TokenTree} :
    formatOfCall path arguments = .ok format ↔
      compact path = "format" ∧ arguments.head? = some format := by
  unfold formatOfCall
  split
  next known => cases arguments <;> simp [known]
  next unknown => simp [unknown]

theorem formatOfCall_eq_error_iff {path : String} {arguments : List TokenTree}
    {error : FormatError} :
    formatOfCall path arguments = .error error ↔
      compact path = "format" ∧ arguments = [] ∧ error = .noFormat ∨
        compact path ≠ "format" ∧ error = .otherResult := by
  unfold formatOfCall
  split
  next known => cases arguments <;> simp [known, eq_comm]
  next unknown => simp [unknown, eq_comm]

/-- The format at an ending, or why there is none. -/
def Ending.format : Ending → Except FormatError TokenTree
  | .tail (.macroCall path arguments _) => formatOfCall path arguments
  | .tail _ => .error .otherResult
  | .unfinished _ => .error .noResult

theorem Ending.format_eq_ok_iff {ending : Ending} {format : TokenTree} :
    ending.format = .ok format ↔ Makes ending format := by
  constructor
  · intro formatted
    unfold Ending.format at formatted
    split at formatted
    next path arguments delimiter =>
      obtain ⟨known, first⟩ := formatOfCall_eq_ok_iff.1 formatted
      obtain ⟨rest, rfl⟩ := List.head?_eq_some_iff.1 first
      exact .call known
    next => cases formatted
    next => cases formatted
  · rintro ⟨known⟩
    rw [Ending.format, formatOfCall_eq_ok_iff]
    exact ⟨known, rfl⟩

theorem Ending.format_eq_error_iff {ending : Ending} {error : FormatError} :
    ending.format = .error error ↔ Offends ending error := by
  constructor
  · intro refused
    unfold Ending.format at refused
    split at refused
    next path arguments delimiter =>
      rcases formatOfCall_eq_error_iff.1 refused with ⟨known, rfl, rfl⟩ | ⟨unknown, rfl⟩
      · exact .empty known
      · refine .other fun _ _ _ same => ?_
        cases same
        exact unknown
    next expr noCall =>
      cases refused
      exact .other fun path arguments delimiter same =>
        absurd same (noCall path arguments delimiter)
    next =>
      cases refused
      exact .unfinished
  · intro offends
    cases offends with
    | unfinished => rfl
    | empty known =>
        rw [Ending.format, formatOfCall_eq_error_iff]
        exact .inl ⟨known, rfl, rfl⟩
    | @other expr different =>
        unfold Ending.format
        split
        next path arguments delimiter same =>
          cases same
          exact formatOfCall_eq_error_iff.2 (.inr ⟨different path arguments delimiter rfl, rfl⟩)
        next => rfl
        next same => cases same

/-! ## Formats are those at the endings -/

theorem mapM_singleton (ending : Ending) :
    [ending].mapM Ending.format = ending.format.map fun format => [format] := by
  rw [List.mapM_cons]
  cases ending.format <;> rfl

theorem Expr.IsTail.formats {expr : Expr} (isTail : expr.IsTail) :
    expr.formats = [Ending.tail expr].mapM Ending.format := by
  rw [mapM_singleton]
  cases expr with
  | macroCall path arguments delimiter => rw [Expr.formats, Ending.format]
  | block _ | ifThen _ | ifElse _ _ | select _ => exact isTail.elim
  | unsafeBlock _ | parenthesized _ | returning _ | call _ | literal _ =>
      rw [Expr.formats] <;> simp [Ending.format, Except.map]

theorem Statement.formats_eq (statement : Statement) :
    statement.formats =
      match statement.expr? with
      | some expr => expr.formats
      | none => .error .noResult := by
  cases statement with
  | binding name => rw [Statement.formats, Statement.expr?]
  | item name => rw [Statement.formats, Statement.expr?]
  | closed expr => cases expr <;> simp [Statement.formats, Statement.expr?]
  | bare expr =>
      cases expr with
      | macroCall path arguments delimiter =>
          cases delimiter <;> simp [Statement.formats, Statement.expr?]
      | _ => simp [Statement.formats, Statement.expr?]

theorem blockFormats_eq (body : List Statement) :
    blockFormats body =
      match resultOf? body with
      | some expr => expr.formats
      | none => .error .noResult := by
  induction body with
  | nil => rw [blockFormats, resultOf?]; rfl
  | cons first rest ih =>
      cases rest with
      | nil =>
          rw [blockFormats, Statement.formats_eq, resultOf?, List.getLast?_singleton,
            Option.bind_some]
      | cons second more =>
          have result : resultOf? (first :: second :: more) = resultOf? (second :: more) := by
            rw [resultOf?, resultOf?, List.getLast?_cons_cons]
          rw [blockFormats, ih, result]
          simp

theorem mapM_append (endings others : List Ending) :
    (endings ++ others).mapM Ending.format = (do
      let first ← endings.mapM Ending.format
      let second ← others.mapM Ending.format
      return first ++ second) :=
  List.mapM_append

theorem armFormats_eq {arms : List Expr}
    (each : ∀ arm ∈ arms, arm.formats = arm.endings.mapM Ending.format) :
    armFormats arms = (arms.flatMap Expr.endings).mapM Ending.format := by
  induction arms with
  | nil => rw [armFormats]; rfl
  | cons arm rest ih =>
      obtain ⟨first, others⟩ := List.forall_mem_cons.1 each
      rw [armFormats, first, ih others, List.flatMap_cons, mapM_append]

theorem blockFormats_eq_mapM {body : List Statement}
    (result : ∀ expr, resultOf? body = some expr →
      expr.formats = expr.endings.mapM Ending.format) :
    blockFormats body = (blockEndings body).mapM Ending.format := by
  rw [blockFormats_eq, blockEndings_eq]
  cases found : resultOf? body with
  | none => rfl
  | some expr => exact result expr found

/-- The formats of an expression are those at its endings, up to the first where there is none. -/
theorem Expr.formats_eq_mapM (expr : Expr) :
    expr.formats = expr.endings.mapM Ending.format := by
  induction expr using Expr.induction with
  | tail expr isTail => rw [isTail.formats, isTail.endings]
  | block body ih => rw [Expr.formats, Expr.endings, blockFormats_eq_mapM ih]
  | ifThen body ih => rw [Expr.formats, Expr.endings, blockFormats_eq_mapM ih]
  | ifElse body alternative ih other =>
      rw [Expr.formats, Expr.endings, blockFormats_eq_mapM ih, other, mapM_append]
  | select arms ih => rw [Expr.formats, endings_select, armFormats_eq ih]

/-! ## Ways through a method -/

/-- A choice of branches leads from an expression to a tail. -/
inductive Expr.Reaches : Expr → Expr → Prop
  | tail {expr : Expr} : expr.IsTail → Reaches expr expr
  | block {body : List Statement} {expr tail : Expr} : resultOf? body = some expr →
      Reaches expr tail → Reaches (.block body) tail
  | ifThen {body : List Statement} {expr tail : Expr} : resultOf? body = some expr →
      Reaches expr tail → Reaches (.ifThen body) tail
  | consequence {body : List Statement} {alternative expr tail : Expr} :
      resultOf? body = some expr → Reaches expr tail → Reaches (.ifElse body alternative) tail
  | alternative {body : List Statement} {alternative tail : Expr} :
      Reaches alternative tail → Reaches (.ifElse body alternative) tail
  | arm {arms : List Expr} {arm tail : Expr} : arm ∈ arms → Reaches arm tail →
      Reaches (.select arms) tail

/-- A choice of branches leads through a method to a tail. -/
def Method.Reaches (method : Method) (tail : Expr) : Prop :=
  ∃ expr, resultOf? method.body = some expr ∧ expr.Reaches tail

theorem mem_blockEndings_iff {body : List Statement} {tail : Expr} :
    .tail tail ∈ blockEndings body ↔
      ∃ expr, resultOf? body = some expr ∧ .tail tail ∈ expr.endings := by
  rw [blockEndings_eq]
  cases resultOf? body with
  | none => simp
  | some expr => simp

theorem Expr.Reaches.mem_endings {expr tail : Expr} (reaches : expr.Reaches tail) :
    .tail tail ∈ expr.endings := by
  induction reaches with
  | tail isTail =>
      rw [isTail.endings]
      exact List.mem_singleton_self _
  | block found _ ih | ifThen found _ ih =>
      rw [Expr.endings]
      exact mem_blockEndings_iff.2 ⟨_, found, ih⟩
  | consequence found _ ih =>
      rw [Expr.endings]
      exact List.mem_append_left _ (mem_blockEndings_iff.2 ⟨_, found, ih⟩)
  | alternative _ ih =>
      rw [Expr.endings]
      exact List.mem_append_right _ ih
  | arm member _ ih =>
      rw [endings_select]
      exact List.mem_flatMap.2 ⟨_, member, ih⟩

theorem Expr.reaches_of_mem_endings {expr tail : Expr} (member : .tail tail ∈ expr.endings) :
    expr.Reaches tail := by
  induction expr using Expr.induction with
  | tail expr isTail =>
      rw [isTail.endings, List.mem_singleton, Ending.tail.injEq] at member
      subst member
      exact .tail isTail
  | block body ih =>
      rw [Expr.endings] at member
      obtain ⟨expr, found, inside⟩ := mem_blockEndings_iff.1 member
      exact .block found (ih expr found inside)
  | ifThen body ih =>
      rw [Expr.endings] at member
      obtain ⟨expr, found, inside⟩ := mem_blockEndings_iff.1 member
      exact .ifThen found (ih expr found inside)
  | ifElse body alternative ih other =>
      rw [Expr.endings] at member
      rcases List.mem_append.1 member with first | second
      · obtain ⟨expr, found, inside⟩ := mem_blockEndings_iff.1 first
        exact .consequence found (ih expr found inside)
      · exact .alternative (other second)
  | select arms ih =>
      rw [endings_select] at member
      obtain ⟨arm, among, inside⟩ := List.mem_flatMap.1 member
      exact .arm among (ih arm among inside)

/-- The tails at the endings of a method are those that some choice of branches leads to. -/
theorem Method.reaches_iff {method : Method} {tail : Expr} :
    method.Reaches tail ↔ .tail tail ∈ blockEndings method.body := by
  rw [mem_blockEndings_iff]
  exact exists_congr fun expr =>
    and_congr_right fun _ => ⟨Expr.Reaches.mem_endings, Expr.reaches_of_mem_endings⟩

theorem blockFormats_eq_ok_iff {body : List Statement} {formats : List TokenTree} :
    blockFormats body = .ok formats ↔ List.Forall₂ Makes (blockEndings body) formats := by
  rw [blockFormats_eq_mapM fun expr _ => expr.formats_eq_mapM, Outcome.mapM_eq_ok_iff_forall₂]
  simp only [Ending.format_eq_ok_iff]

theorem blockFormats_eq_error_iff {body : List Statement} {error : FormatError} :
    blockFormats body = .error error ↔
      ∃ before ending after, blockEndings body = before ++ ending :: after ∧
        (∀ earlier ∈ before, ∃ format, Makes earlier format) ∧ Offends ending error := by
  rw [blockFormats_eq_mapM fun expr _ => expr.formats_eq_mapM, Outcome.mapM_eq_error_iff]
  simp only [Ending.format_eq_ok_iff, Ending.format_eq_error_iff]

theorem Offends.not_makes {ending : Ending} {error : FormatError} (offends : Offends ending error)
    (format : TokenTree) : ¬ Makes ending format := by
  rw [← Ending.format_eq_ok_iff, Ending.format_eq_error_iff.2 offends]
  simp

theorem formats_unique {endings : List Ending} {formats others : List TokenTree}
    (each : List.Forall₂ Makes endings formats) (eachToo : List.Forall₂ Makes endings others) :
    formats = others := by
  refine List.right_unique_forall₂' (fun ending format other makes makesToo => ?_) each eachToo
  rw [← Ending.format_eq_ok_iff] at makes makesToo
  exact Except.ok.inj (makes.symm.trans makesToo)

theorem Method.expand_of_formats {method : Method} {formats : List TokenTree}
    (collected : blockFormats method.body = .ok formats) :
    method.expand = [.method method, .messageFormats formats] := by
  rw [expand, collected]

theorem Method.expand_of_error {method : Method} {error : FormatError}
    (refused : blockFormats method.body = .error error) :
    method.expand = [.compileError error.message] := by
  rw [expand, refused]

/-- Of two rows that belong together item by item, each item of the first has its partner. -/
theorem exists_partner {α β : Type} {related : α → β → Prop} {row : List α} {others : List β}
    (rows : List.Forall₂ related row others) {item : α} (member : item ∈ row) :
    ∃ other ∈ others, related item other := by
  induction rows with
  | nil => cases member
  | cons together _ ih =>
      rcases List.mem_cons.1 member with rfl | later
      · exact ⟨_, List.mem_cons_self, together⟩
      · obtain ⟨other, inside, along⟩ := ih later
        exact ⟨other, List.mem_cons_of_mem _ inside, along⟩

/-- Where a call of `format!` with an argument stands at every ending of a method, the method is
left as it is, and the formats are the first token trees of these calls, one for each ending and in
the order of the endings; every choice of branches leads to a call with one of them, and each of
them is that of a call that some choice leads to.  Otherwise there is only the error of the first
ending where no such call stands. -/
theorem expand_collects_formats (method : Method) :
    ((∀ ending ∈ blockEndings method.body, ∃ format, Makes ending format) →
      ∃ formats, method.expand = [.method method, .messageFormats formats] ∧
        List.Forall₂ Makes (blockEndings method.body) formats ∧
        (∀ tail, method.Reaches tail → ∃ format ∈ formats, Makes (.tail tail) format) ∧
        ∀ format ∈ formats, ∃ tail, method.Reaches tail ∧ Makes (.tail tail) format) ∧
    ((∃ ending ∈ blockEndings method.body, ∀ format, ¬ Makes ending format) →
      ∃ before ending after error, blockEndings method.body = before ++ ending :: after ∧
        (∀ earlier ∈ before, ∃ format, Makes earlier format) ∧ Offends ending error ∧
        method.expand = [.compileError error.message]) := by
  cases collected : blockFormats method.body with
  | error error =>
      obtain ⟨before, ending, after, split, earlier, offends⟩ :=
        blockFormats_eq_error_iff.1 collected
      refine ⟨fun all => ?_, fun _ => ?_⟩
      · obtain ⟨format, makes⟩ := all ending (by rw [split]; simp)
        exact absurd makes (offends.not_makes format)
      · exact ⟨before, ending, after, error, split, earlier, offends,
          Method.expand_of_error collected⟩
  | ok formats =>
      have each := blockFormats_eq_ok_iff.1 collected
      refine ⟨fun _ => ⟨formats, Method.expand_of_formats collected, each, ?_, ?_⟩, ?_⟩
      · intro tail reaches
        exact exists_partner each (Method.reaches_iff.1 reaches)
      · intro format member
        obtain ⟨ending, inside, makes⟩ := exists_partner each.flip member
        cases makes with
        | call known => exact ⟨_, Method.reaches_iff.2 inside, .call known⟩
      · rintro ⟨ending, member, nothing⟩
        obtain ⟨format, _, makes⟩ := exists_partner each member
        exact absurd makes (nothing format)

/-- The token tree of a string literal. -/
def literalTree : TokenTree := .single (.text "a" "\"a\"")

/-- A name in brackets. -/
def bracketedName : TokenTree := .group (some .parentheses) [.single (.word "name")]

/-- A method with four ways through it, one of which ends behind a branch without an alternative. -/
def branchingMethod : Method :=
  ⟨"fn message(&self) -> String",
    [.binding "name",
      .closed (.ifElse
        [.item "helper",
          .bare (.select
            [.macroCall "format" [literalTree] .parentheses,
              .block [.closed (.block [.bare
                (.macroCall "format" [.single (.mark "-"), .single (.word "1")] .brackets)])],
              .macroCall "format" [literalTree, .single (.mark ","), bracketedName] .braces])]
        (.ifThen [.bare (.macroCall "format" [bracketedName, literalTree] .parentheses)]))]⟩

theorem blockEndings_branchingMethod :
    blockEndings branchingMethod.body =
      [.tail (.macroCall "format" [literalTree] .parentheses),
        .tail (.macroCall "format" [.single (.mark "-"), .single (.word "1")] .brackets),
        .tail (.macroCall "format" [literalTree, .single (.mark ","), bracketedName] .braces),
        .tail (.macroCall "format" [bracketedName, literalTree] .parentheses)] := by
  simp [branchingMethod, blockEndings_eq, resultOf?, Statement.expr?, Expr.endings]

/-- A method in which a block without a result stands before a `format!` without an argument. -/
def brokenMethod : Method :=
  ⟨"fn message(&self) -> String",
    [.bare (.ifElse [.bare (.macroCall "format" [literalTree] .parentheses)]
      (.select [.block [.bare (.macroCall "format" [literalTree] .braces)],
        .macroCall "format" [] .parentheses]))]⟩

theorem blockEndings_brokenMethod :
    blockEndings brokenMethod.body =
      [.tail (.macroCall "format" [literalTree] .parentheses),
        .unfinished [.bare (.macroCall "format" [literalTree] .braces)],
        .tail (.macroCall "format" [] .parentheses)] := by
  simp [brokenMethod, blockEndings_eq, resultOf?, Statement.expr?, Expr.endings]

/-- The formats of the four ways are kept in their order, the repeated one as well, and brackets
with what they hold are one format; and the block without a result is what is reported of the
broken method. -/
theorem expand_branchingMethod :
    branchingMethod.expand =
        [.method branchingMethod,
          .messageFormats [literalTree, .single (.mark "-"), literalTree, bracketedName]] ∧
      brokenMethod.expand =
        [.compileError "expected last statement in block to be an expression"] := by
  have known : compact "format" = "format" := by decide +kernel
  constructor
  · have each : List.Forall₂ Makes (blockEndings branchingMethod.body)
        [literalTree, .single (.mark "-"), literalTree, bracketedName] := by
      rw [blockEndings_branchingMethod]
      exact .cons (.call known) (.cons (.call known)
        (.cons (.call known) (.cons (.call known) .nil)))
    obtain ⟨formats, expanded, others, _⟩ :=
      (expand_collects_formats branchingMethod).1 fun _ member =>
        (exists_partner each member).imp fun _ => And.right
    rw [expanded, formats_unique others each]
  · obtain ⟨before, ending, after, error, split, earlier, offends, expanded⟩ :=
      (expand_collects_formats brokenMethod).2
        ⟨.unfinished [.bare (.macroCall "format" [literalTree] .braces)],
          by rw [blockEndings_brokenMethod]; simp, fun _ => Offends.unfinished.not_makes _⟩
    rw [blockEndings_brokenMethod] at split
    rcases before with _ | ⟨first, _ | ⟨second, more⟩⟩
    · cases split
      exact absurd (.call known) (offends.not_makes _)
    · cases split
      cases offends
      exact expanded
    · -- the block without a result would be among those in front
      simp only [List.cons_append, List.cons.injEq] at split
      obtain ⟨format, makes⟩ := earlier second (by simp)
      rw [← split.2.1] at makes
      cases makes

end ShadowLint.Derive
