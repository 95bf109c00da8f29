import Formula.CommandLine
import Formula.Proofs.CommandLine.Arguments
import Formula.Proofs.Parser.Completeness
import Formula.Proofs.Token.Trailing
import Mathlib.Data.List.Forall2

/-!
# The command line agrees with the library

A run of the program says of a source what the library says of it, although it is given the source
with the blanks at its end and reads it without them.  They make no difference to which texts are
expressions, nor to the trees (`Expr.parse_trimEnd_iff`), as they make none to the tokens.

`Tells` is the agreement for a run that evaluates, and `Shows` that for a run that prints the tree.
A run that fails prints nothing but its error, and it has one: that of the trimmed source, or that
of the first literal without a value, or that of the evaluation, in this order.
-/

set_option autoImplicit false

namespace Formula

open Text CommandLine

/-! ## The library without the blanks at the end -/

/-- The blanks at the end of a source have no say in what it is. -/
theorem Expr.parse_trimEnd_iff {source : String} {e : Expr} :
    Expr.parse (trimEnd source) = .ok e ↔ Expr.parse source = .ok e := by
  simp only [Expr.parse_eq_ok_iff, Lexer.tokens_trimEnd_iff]

theorem compile_eq_ok_iff {source : String} {compiled : Compiled} :
    compile source = .ok compiled ↔
      ∃ root, Expr.parse source = .ok root ∧ compiled = { source, root } := by
  rw [compile]
  split
  · rename_i root hroot
    simp [hroot, eq_comm]
  · rename_i e herror
    simp [herror]

theorem evaluate_of_parse {source : String} {root : Expr} (h : Expr.parse source = .ok root)
    (c : Context) : evaluate source c = (root.eval c).mapError .evaluation := by
  rw [evaluate, compile_eq_ok_iff.2 ⟨root, h, rfl⟩]
  simp only [Compiled.evaluate]
  split <;> rename_i hroot <;> rw [hroot] <;> rfl

/-- What has a value is an expression. -/
theorem exists_parse_of_evaluate {source : String} {c : Context} {v : Value}
    (h : evaluate source c = .ok v) : ∃ root, Expr.parse source = .ok root := by
  match hparse : Expr.parse source with
  | .ok root => exact ⟨root, rfl⟩
  | .error e =>
    rw [evaluate, compile, hparse] at h
    cases h

namespace CommandLine

/-! ## Substitution values -/

/-- Each literal has its value, without any variables. -/
def HaveValues (literals : List String) (values : List Value) : Prop :=
  List.Forall₂ (fun literal v ↦ evaluate literal .empty = .ok v) literals values

/-- One of the literals fails with an error, and those before it have values. -/
def FirstFails (literals : List String) (e : Error) : Prop :=
  ∃ before literal after, literals = before ++ literal :: after ∧
    (∀ earlier ∈ before, ∃ v, evaluate earlier .empty = .ok v) ∧
    evaluate literal .empty = .error e

/-- The substitution values are those that the literals have. -/
theorem substitutions_eq_ok_iff {literals : List String} {values : List Value} :
    substitutions literals = .ok values ↔ HaveValues literals values := by
  induction literals generalizing values with
  | nil => simp [substitutions, HaveValues, eq_comm]
  | cons literal rest ih =>
    rw [substitutions, HaveValues, List.forall₂_cons_left_iff]
    constructor
    · intro h
      split at h
      · cases h
      rename_i v hv
      split at h
      · cases h
      rename_i vs hvs
      cases h
      exact ⟨v, vs, hv, ih.1 hvs, rfl⟩
    · rintro ⟨v, vs, hv, hvs, rfl⟩
      rw [hv, ih.2 hvs]

theorem firstFails_of_substitutions {literals : List String} {e : Error}
    (h : substitutions literals = .error e) : FirstFails literals e := by
  induction literals with
  | nil => cases h
  | cons literal rest ih =>
    rw [substitutions] at h
    split at h
    · rename_i e' he
      cases h
      exact ⟨[], literal, rest, rfl, by simp, he⟩
    rename_i v hv
    split at h
    · rename_i e' he
      cases h
      obtain ⟨before, failing, after, rfl, hbefore, hfails⟩ := ih he
      exact ⟨literal :: before, failing, after, rfl,
        List.forall_mem_cons.2 ⟨⟨v, hv⟩, hbefore⟩, hfails⟩
    · cases h

/-! ## What a run leaves behind -/

theorem Report.success_inj {line line' : String} :
    Report.success line = Report.success line' ↔ line = line' := by
  simp [Report.success]

theorem Report.failure_ne_success (message line : String) :
    Report.failure message ≠ Report.success line := by
  rintro ⟨⟩

/-- The error that a run reports: the syntax error of the trimmed source if there is one, else that
of the first literal without a value, else that of the evaluation. -/
def Complains (source : String) (literals : List String) (e : Error) : Prop :=
  (∃ cause, compile (trimEnd source) = .error cause ∧ e = .parse cause) ∨
    (∃ compiled, compile (trimEnd source) = .ok compiled) ∧ FirstFails literals e ∨
    ∃ values cause, HaveValues literals values ∧
      evaluate source { values } = .error (.evaluation cause) ∧ e = .evaluation cause

/-- A run tells the value of a source: it prints the text of that value, without an error, exactly
if the literals have values and the source has that value in their context; and otherwise it leaves
one error and nothing else. -/
def Tells (report : Report) (source : String) (literals : List String) : Prop :=
  let value (v : Value) : Prop :=
    ∃ values, HaveValues literals values ∧ evaluate source { values } = .ok v
  (∀ line, report = { exitCode := 0, output := line ++ "\n", errors := "" } ↔
    ∃ v, value v ∧ line = v.text) ∧
  ((¬ ∃ v, value v) → ∃ e, Complains source literals e ∧
    report = { exitCode := 1, output := "", errors := e.message ++ "\n" })

/-- A run shows the tree of a source: it prints the rendered tree, without an error, exactly if the
source is an expression; and otherwise it leaves its syntax error and nothing else. -/
def Shows (report : Report) (source : String) : Prop :=
  (∀ line, report = { exitCode := 0, output := line ++ "\n", errors := "" } ↔
    ∃ compiled, compile source = .ok compiled ∧ line = compiled.root.render) ∧
  ((¬ ∃ compiled, compile source = .ok compiled) → ∃ cause,
    compile (trimEnd source) = .error cause ∧
      report = { exitCode := 1, output := "", errors := (Error.parse cause).message ++ "\n" })

/-- The report on what there is to print. -/
def reportOf : Except Error String → Report
  | .ok line => .success line
  | .error e => .failure e.message

theorem run_of_source {arguments : Arguments} {file? : Option String} {source : String}
    (h : source? arguments file? = some source) :
    run arguments file? = reportOf (answer arguments (trimEnd source)) := by
  rw [run, h]
  simp only
  split <;> rename_i hanswer <;> rw [hanswer] <;> rfl

variable {source line : String} {arguments : Arguments}

/-! ## A source that is no expression -/

theorem not_parse_of_trimEnd {cause : ParseError}
    (h : Expr.parse (trimEnd source) = .error cause) (root : Expr) :
    Expr.parse source ≠ .ok root := by
  intro hroot
  rw [Expr.parse_trimEnd_iff.2 hroot] at h
  cases h

theorem compile_of_parse_error {cause : ParseError} (h : Expr.parse source = .error cause) :
    compile source = .error cause := by
  rw [compile, h]

theorem answer_of_parse_error {cause : ParseError} (h : Expr.parse source = .error cause) :
    answer arguments source = .error (.parse cause) := by
  rw [answer, compile_of_parse_error h]

/-! ## The two kinds of runs -/

/-- The tree is printed before the literals are looked at. -/
theorem shows_answer (htree : arguments.tree = true) (source : String) :
    Shows (reportOf (answer arguments (trimEnd source))) source := by
  match hparse : Expr.parse (trimEnd source) with
  | .error cause =>
    rw [answer_of_parse_error hparse]
    have hnone : ¬ ∃ compiled, compile source = .ok compiled := by
      rintro ⟨compiled, hcompiled⟩
      obtain ⟨root, hroot, -⟩ := compile_eq_ok_iff.1 hcompiled
      exact not_parse_of_trimEnd hparse root hroot
    refine ⟨fun line ↦ ⟨fun h ↦ absurd h (Report.failure_ne_success _ _), ?_⟩,
      fun _ ↦ ⟨cause, compile_of_parse_error hparse, rfl⟩⟩
    rintro ⟨compiled, hcompiled, -⟩
    exact absurd ⟨compiled, hcompiled⟩ hnone
  | .ok root =>
    have hanswer : answer arguments (trimEnd source) = .ok root.render := by
      rw [answer, compile_eq_ok_iff.2 ⟨root, hparse, rfl⟩]
      exact if_pos htree
    have hcompile : compile source = .ok { source, root } :=
      compile_eq_ok_iff.2 ⟨root, Expr.parse_trimEnd_iff.1 hparse, rfl⟩
    rw [hanswer]
    refine ⟨fun line ↦ Report.success_inj.trans ⟨?_, ?_⟩, fun hnone ↦ absurd ⟨_, hcompile⟩ hnone⟩
    · rintro rfl
      exact ⟨_, hcompile, rfl⟩
    · rintro ⟨compiled, hcompiled, rfl⟩
      rw [hcompile] at hcompiled
      cases hcompiled
      rfl

/-- A run without a value says why. -/
theorem tells_failure {literals : List String} {e : Error} (he : Complains source literals e)
    (hnone : ¬ ∃ v values, HaveValues literals values ∧ evaluate source { values } = .ok v) :
    Tells (.failure e.message) source literals := by
  refine ⟨fun line ↦ ⟨fun h ↦ absurd h (Report.failure_ne_success _ _), ?_⟩, fun _ ↦ ⟨e, he, rfl⟩⟩
  rintro ⟨v, hv, -⟩
  exact absurd ⟨v, hv⟩ hnone

theorem tells_answer (htree : arguments.tree = false) (source : String) :
    Tells (reportOf (answer arguments (trimEnd source))) source arguments.values := by
  match hparse : Expr.parse (trimEnd source) with
  | .error cause =>
    rw [answer_of_parse_error hparse]
    refine tells_failure (.inl ⟨cause, compile_of_parse_error hparse, rfl⟩) ?_
    rintro ⟨v, values, -, hv⟩
    obtain ⟨root, hroot⟩ := exists_parse_of_evaluate hv
    exact not_parse_of_trimEnd hparse root hroot
  | .ok root =>
    have hcompile := compile_eq_ok_iff.2 ⟨root, hparse, rfl⟩
    have hevaluate := evaluate_of_parse (Expr.parse_trimEnd_iff.1 hparse)
    rw [answer, hcompile]
    simp only [htree, Bool.false_eq_true, if_false, Compiled.evaluate]
    match hliterals : substitutions arguments.values with
    | .error e =>
      have hfails := firstFails_of_substitutions hliterals
      refine tells_failure (.inr (.inl ⟨⟨_, hcompile⟩, hfails⟩)) ?_
      rintro ⟨v, values, hvalues, -⟩
      rw [substitutions_eq_ok_iff.2 hvalues] at hliterals
      cases hliterals
    | .ok values =>
      have hvalues := substitutions_eq_ok_iff.1 hliterals
      have hunique : ∀ values', HaveValues arguments.values values' → values' = values := by
        intro values' hvalues'
        rw [substitutions_eq_ok_iff.2 hvalues'] at hliterals
        cases hliterals
        rfl
      simp only
      match hvalue : root.eval { values } with
      | .error cause =>
        have herror : evaluate source { values } = .error (.evaluation cause) := by
          rw [hevaluate, hvalue]
          rfl
        refine tells_failure (.inr (.inr ⟨values, cause, hvalues, herror, rfl⟩)) ?_
        rintro ⟨v, values', hvalues', hv⟩
        rw [hunique values' hvalues', herror] at hv
        cases hv
      | .ok v =>
        have hv : evaluate source { values } = .ok v := by
          rw [hevaluate, hvalue]
          rfl
        refine ⟨fun line ↦ Report.success_inj.trans ⟨?_, ?_⟩,
          fun hnone ↦ absurd ⟨v, values, hvalues, hv⟩ hnone⟩
        · rintro rfl
          exact ⟨v, ⟨values, hvalues, hv⟩, rfl⟩
        · rintro ⟨v', ⟨values', hvalues', hv'⟩, rfl⟩
          rw [hunique values' hvalues', hv] at hv'
          cases hv'
          rfl

variable {file? : Option String}

theorem tells_run (h : source? arguments file? = some source) (htree : arguments.tree = false) :
    Tells (run arguments file?) source arguments.values := by
  rw [run_of_source h]
  exact tells_answer htree source

theorem shows_run (h : source? arguments file? = some source) (htree : arguments.tree = true) :
    Shows (run arguments file?) source := by
  rw [run_of_source h]
  exact shows_answer htree source

/-- All arguments can be given on a command line, and a run that has read them from there tells the
value of the source, or shows its tree if asked for it. -/
theorem agrees_commandLine (h : source? arguments file? = some source) :
    ∃ given, Arguments.read? arguments.commandLine = some given ∧
      if arguments.tree then Shows (run given file?) source
      else Tells (run given file?) source arguments.values := by
  refine ⟨arguments, Arguments.read?_commandLine arguments, ?_⟩
  split
  · rename_i htree
    exact shows_run h htree
  · rename_i htree
    exact tells_run h (Bool.eq_false_iff.2 htree)

/-- **The command line agrees with the library**, whether the source is an argument or the text of a
file: without a tree to print, it tells the value of the source, and otherwise it shows the tree,
whatever the literals are. -/
theorem run_agrees (source : String) (literals : List String) :
    (∀ file?, Tells (run { contents := source, values := literals } file?) source literals ∧
      Shows (run { contents := source, values := literals, tree := true } file?) source) ∧
    ∀ name, Tells (run { contents := name, values := literals, file := true } (some source))
        source literals ∧
      Shows (run { contents := name, values := literals, tree := true, file := true }
        (some source)) source :=
  ⟨fun _ ↦ ⟨tells_run rfl rfl, shows_run rfl rfl⟩, fun _ ↦ ⟨tells_run rfl rfl, shows_run rfl rfl⟩⟩

end CommandLine

end Formula
