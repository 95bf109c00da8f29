import Formula.CommandLine.Arguments
import Mathlib.Data.List.Basic

/-!
# The command lines that give some arguments

`Arguments.Says` lists what a command line may be made of, and what each of its parts says: a long
option, a cluster of letters, an option with its value in the next argument, a text that is no
option, and the mark behind which nothing is one.  The reader goes by a different account, since it
tells an argument apart by its first characters and collects what the letters of a cluster say as it
goes.  It comes to the same, `Arguments.settings?_eq_some_iff`.

Hence `Arguments.read?_eq_some_iff`: a command line gives some arguments just if it says their
values, in order, their contents and nothing else for contents, and each of the flags that are set
once and no other.  All arguments can be given, whatever their texts look like:
`Arguments.commandLine` is a command line for them.
-/

set_option autoImplicit false

namespace Formula.CommandLine.Arguments

/-! ## What one argument says -/

/-- Flags as letters. -/
inductive Flags : List Char → List Setting → Prop
  | nil : Flags [] []
  | file {letters : List Char} {said : List Setting} (h : Flags letters said) :
      Flags ('f' :: letters) (.file :: said)
  | tree {letters : List Char} {said : List Setting} (h : Flags letters said) :
      Flags ('t' :: letters) (.tree :: said)

/-- What may follow the flags of a cluster: nothing, or the letter of a value and the value. -/
inductive Tail : List Char → List Setting → Prop
  | nil : Tail [] []
  | equals (literal : List Char) : Tail ('v' :: '=' :: literal) [.value (String.ofList literal)]
  | value {literal : List Char} (hne : literal ≠ []) (hequals : literal.head? ≠ some '=') :
      Tail ('v' :: literal) [.value (String.ofList literal)]

/-- An argument that says settings and needs no other one. -/
inductive Complete : List Char → List Setting → Prop
  | file : Complete "--file".toList [.file]
  | tree : Complete "--tree".toList [.tree]
  | value (literal : List Char) :
      Complete ("--value=".toList ++ literal) [.value (String.ofList literal)]
  | cluster {letters tail : List Char} {flags values : List Setting} (h : Flags letters flags)
      (htail : Tail tail values) (hne : letters ++ tail ≠ []) :
      Complete ('-' :: (letters ++ tail)) (flags ++ values)

/-- An argument that says settings and has its value in the next one. -/
inductive Incomplete : List Char → List Setting → Prop
  | value : Incomplete "--value".toList []
  | cluster {letters : List Char} {flags : List Setting} (h : Flags letters flags) :
      Incomplete ('-' :: (letters ++ ['v'])) flags

/-- An argument that is no option: it does not begin with a hyphen, or is nothing else. -/
def Plain (text : List Char) : Prop := ∀ c rest, text ≠ '-' :: c :: rest

/-- What a command line says, one argument after the other. -/
inductive Says : List String → List Setting → Prop
  | nil : Says [] []
  | settings {argument : String} {rest : List String} {said more : List Setting}
      (h : Complete argument.toList said) (hrest : Says rest more) :
      Says (argument :: rest) (said ++ more)
  | value {argument literal : String} {rest : List String} {said more : List Setting}
      (h : Incomplete argument.toList said) (hplain : Plain literal.toList)
      (hrest : Says rest more) :
      Says (argument :: literal :: rest) (said ++ .value literal :: more)
  | contents {argument : String} {rest : List String} {more : List Setting}
      (h : Plain argument.toList) (hrest : Says rest more) :
      Says (argument :: rest) (.contents argument :: more)
  | endOfOptions (rest : List String) : Says ("--" :: rest) (rest.map .contents)

/-! ## Clusters -/

variable {letters tail text : List Char} {said flags values : List Setting}

/-- The flags of a cluster are collected in order. -/
theorem clusterOf_append (h : Flags letters flags) (said : List Setting) (tail : List Char) :
    clusterOf said (letters ++ tail) = clusterOf (said ++ flags) tail := by
  induction h generalizing said with
  | nil => simp
  | file _ ih | tree _ ih => simp [clusterOf, ih]

/-- A cluster begins with all its flags. -/
theorem exists_flags (cluster : List Char) : ∃ letters tail flags, cluster = letters ++ tail ∧
    Flags letters flags ∧ tail.head? ≠ some 'f' ∧ tail.head? ≠ some 't' := by
  induction cluster with
  | nil => exact ⟨[], [], [], rfl, .nil, by simp, by simp⟩
  | cons c rest ih =>
    obtain ⟨letters, tail, flags, rfl, hflags, htail⟩ := ih
    by_cases hfile : c = 'f'
    · exact ⟨'f' :: letters, tail, .file :: flags, by simp [hfile], .file hflags, htail⟩
    by_cases htree : c = 't'
    · exact ⟨'t' :: letters, tail, .tree :: flags, by simp [htree], .tree hflags, htail⟩
    · exact ⟨[], _, [], rfl, .nil, by simpa using hfile, by simpa using htree⟩

/-- Behind its flags a cluster ends, or has a value, or needs one, or is unknown. -/
theorem clusterOf_tail (hfile : tail.head? ≠ some 'f') (htree : tail.head? ≠ some 't')
    (said : List Setting) :
    (∃ values, Tail tail values ∧ clusterOf said tail = .settings (said ++ values)) ∨
      tail = ['v'] ∧ clusterOf said tail = .needsValue said ∨
      clusterOf said tail = .unknown := by
  rcases tail with _ | ⟨c, literal⟩
  · exact .inl ⟨[], .nil, by simp [clusterOf]⟩
  by_cases hv : c = 'v'
  · subst hv
    rcases literal with _ | ⟨d, literal⟩
    · exact .inr (.inl ⟨rfl, rfl⟩)
    by_cases hequals : d = '='
    · subst hequals
      exact .inl ⟨_, .equals literal, rfl⟩
    · refine .inl ⟨_, .value (List.cons_ne_nil d literal) (by simpa using hequals), ?_⟩
      rw [clusterOf]
      · simp
      · simpa using hequals
  · refine .inr (.inr ?_)
    rw [clusterOf] <;> simp_all

theorem clusterOf_of_tail (h : Tail tail values) (said : List Setting) :
    clusterOf said tail = .settings (said ++ values) := by
  cases h with
  | nil => simp [clusterOf]
  | equals literal => rfl
  | @value literal hne hequals =>
    rcases literal with _ | ⟨d, literal⟩
    · exact absurd rfl hne
    · rw [clusterOf]
      · simp
      · simpa using hequals

/-! ## Arguments -/

theorem wordOf_cluster {cluster : List Char} (hne : cluster ≠ [])
    (hhyphen : cluster.head? ≠ some '-') : wordOf ('-' :: cluster) = clusterOf [] cluster := by
  rcases cluster with _ | ⟨c, cluster⟩
  · exact absurd rfl hne
  · rw [wordOf]
    simpa using hhyphen

theorem wordOf_of_plain (h : Plain text) : wordOf text = .plain := by
  rw [wordOf]
  · rintro name rfl
    exact h _ _ rfl
  · rintro c rest rfl
    exact h _ _ rfl

/-- Flags in front of a text that does not begin with a hyphen. -/
theorem Flags.head?_append_ne (h : Flags letters flags) (htail : tail.head? ≠ some '-') :
    (letters ++ tail).head? ≠ some '-' := by
  cases h <;> simp_all

theorem Tail.head?_ne (h : Tail tail values) : tail.head? ≠ some '-' := by
  cases h <;> simp

theorem wordOf_of_complete (h : Complete text said) : wordOf text = .settings said := by
  cases h with
  | file | tree => rfl
  | value literal =>
    show longOf (String.ofList ("value=".toList ++ literal)) = _
    simp [longOf, String.ext_iff]
  | cluster h htail hne =>
    rw [wordOf_cluster hne (h.head?_append_ne htail.head?_ne), clusterOf_append h,
      clusterOf_of_tail htail, List.nil_append]

theorem wordOf_of_incomplete (h : Incomplete text said) : wordOf text = .needsValue said := by
  cases h with
  | value => rfl
  | cluster h =>
    rw [wordOf_cluster (by simp) (h.head?_append_ne (by simp)), clusterOf_append h]
    rfl

/-- What a long option says, if it is known. -/
theorem longOf_cases (name : List Char) :
    (∃ said, Complete ('-' :: '-' :: name) said ∧ longOf (String.ofList name) = .settings said) ∨
      (Incomplete ('-' :: '-' :: name) [] ∧ longOf (String.ofList name) = .needsValue []) ∨
      (name = [] ∧ longOf (String.ofList name) = .endOfOptions) ∨
      longOf (String.ofList name) = .unknown := by
  have hname : ∀ text : String, String.ofList name = text → name = text.toList := by
    rintro _ rfl
    exact String.toList_ofList.symm
  rw [longOf]
  split
  · rename_i h
    exact .inr (.inr (.inl ⟨hname _ h, rfl⟩))
  split
  · rename_i h
    obtain rfl := hname _ h
    exact .inl ⟨_, .file, rfl⟩
  split
  · rename_i h
    obtain rfl := hname _ h
    exact .inl ⟨_, .tree, rfl⟩
  split
  · rename_i h
    obtain rfl := hname _ h
    exact .inr (.inl ⟨.value, rfl⟩)
  split
  · rename_i h
    simp only [String.toList_ofList, List.isPrefixOf_iff_prefix] at h ⊢
    obtain ⟨literal, rfl⟩ := h
    exact .inl ⟨_, .value literal, rfl⟩
  · exact .inr (.inr (.inr rfl))

/-- **What an argument is**: it says settings, or needs a value, or is no option, or is the mark
behind which nothing is one, or is unknown. -/
theorem wordOf_cases (text : List Char) :
    (∃ said, Complete text said ∧ wordOf text = .settings said) ∨
      (∃ said, Incomplete text said ∧ wordOf text = .needsValue said) ∨
      (Plain text ∧ wordOf text = .plain) ∨
      (text = "--".toList ∧ wordOf text = .endOfOptions) ∨ wordOf text = .unknown := by
  by_cases hplain : Plain text
  · exact .inr (.inr (.inl ⟨hplain, wordOf_of_plain hplain⟩))
  obtain ⟨c, cluster, rfl⟩ : ∃ c rest, text = '-' :: c :: rest := by
    simpa [Plain] using hplain
  by_cases hc : c = '-'
  · subst hc
    obtain ⟨said, h⟩ | h | ⟨rfl, h⟩ | h := longOf_cases cluster
    · exact .inl ⟨said, h⟩
    · exact .inr (.inl ⟨[], h⟩)
    · exact .inr (.inr (.inr (.inl ⟨rfl, h⟩)))
    · exact .inr (.inr (.inr (.inr h)))
  · have hword := wordOf_cluster (List.cons_ne_nil c cluster) (by simpa using hc)
    obtain ⟨letters, tail, flags, hsplit, hflags, hfile, htree⟩ := exists_flags (c :: cluster)
    rw [hsplit, clusterOf_append hflags, List.nil_append] at hword
    rw [hsplit]
    obtain ⟨values, htail, h⟩ | ⟨rfl, h⟩ | h := clusterOf_tail hfile htree flags
    · refine .inl ⟨_, .cluster hflags htail ?_, hword.trans h⟩
      rw [← hsplit]
      exact List.cons_ne_nil c cluster
    · exact .inr (.inl ⟨_, .cluster hflags, hword.trans h⟩)
    · exact .inr (.inr (.inr (.inr (hword.trans h))))

theorem complete_of_wordOf (h : wordOf text = .settings said) : Complete text said := by
  simpa [h] using wordOf_cases text

theorem incomplete_of_wordOf (h : wordOf text = .needsValue said) : Incomplete text said := by
  simpa [h] using wordOf_cases text

theorem plain_of_wordOf (h : wordOf text = .plain) : Plain text := by
  simpa [h] using wordOf_cases text

theorem eq_of_wordOf (h : wordOf text = .endOfOptions) : text = "--".toList := by
  simpa [h] using wordOf_cases text

/-! ## Command lines -/

/-- **What is collected from a command line is what it says.** -/
theorem settings?_eq_some_iff {commandLine : List String} :
    settings? commandLine = some said ↔ Says commandLine said := by
  constructor
  · intro h
    fun_induction settings? commandLine generalizing said with
    | case1 =>
      cases h
      exact .nil
    | case2 argument rest words hword ih =>
      obtain ⟨more, hmore, rfl⟩ := Option.map_eq_some_iff.1 h
      exact .settings (complete_of_wordOf hword) (ih hmore)
    | case3 argument rest hword =>
      cases h
      obtain rfl : argument = "--" := String.toList_inj.1 (eq_of_wordOf hword)
      exact .endOfOptions rest
    | case4 argument rest hword ih =>
      obtain ⟨more, hmore, rfl⟩ := Option.map_eq_some_iff.1 h
      exact .contents (plain_of_wordOf hword) (ih hmore)
    | case5 | case6 | case8 => cases h
    | case7 argument words hword literal rest hplain ih =>
      obtain ⟨more, hmore, rfl⟩ := Option.map_eq_some_iff.1 h
      exact .value (incomplete_of_wordOf hword) (plain_of_wordOf hplain) (ih hmore)
  · intro h
    induction h with
    | nil => rfl
    | settings h hrest ih => simp [settings?, wordOf_of_complete h, ih]
    | value h hplain hrest ih =>
      simp [settings?, wordOf_of_incomplete h, wordOf_of_plain hplain, ih]
    | contents h hrest ih => simp [settings?, wordOf_of_plain h, ih]
    | endOfOptions rest => rw [settings?]; rfl

/-- A flag is set or not, and said once at most, just if it is said as often as it is set. -/
theorem count_eq_toNat_iff {flag : Setting} {set : Bool} :
    said.count flag = set.toNat ↔ said.count flag ≤ 1 ∧ said.contains flag = set := by
  cases set with
  | false =>
    rw [Bool.toNat_false, List.count_eq_zero, List.contains_eq_mem, decide_eq_false_iff_not]
    refine ⟨fun h ↦ ⟨?_, h⟩, fun h ↦ h.2⟩
    rw [List.count_eq_zero.2 h]
    exact Nat.zero_le _
  | true =>
    rw [Bool.toNat_true, List.contains_eq_mem, decide_eq_true_iff, ← List.count_pos_iff]
    omega

/-- **The command lines that give some arguments**: they say the values in order, the contents, and
nothing else for contents, and each of the two flags once if it is set and not at all otherwise. -/
theorem read?_eq_some_iff {commandLine : List String} {arguments : Arguments} :
    read? commandLine = some arguments ↔ ∃ said, Says commandLine said ∧
      contentsIn said = [arguments.contents] ∧ valuesIn said = arguments.values ∧
      said.count .file = arguments.file.toNat ∧ said.count .tree = arguments.tree.toNat := by
  simp only [read?, Option.bind_eq_some_iff, settings?_eq_some_iff, count_eq_toNat_iff]
  refine exists_congr fun said ↦ and_congr_right fun _ ↦ ?_
  obtain ⟨contents, values, tree, file⟩ := arguments
  split
  · rename_i text hcontents
    split
    · rename_i hcounts
      simp only [Option.some.injEq, Arguments.mk.injEq, hcontents, List.cons.injEq]
      grind
    · rename_i hcounts
      simp only [reduceCtorEq, false_iff]
      exact fun h ↦ hcounts ⟨h.2.2.1.1, h.2.2.2.1⟩
  · rename_i hcontents
    simp only [reduceCtorEq, false_iff]
    exact fun h ↦ hcontents contents h.1

/-! ## A command line for all arguments -/

/-- A command line for some arguments: each value in one argument with its option, and the contents
behind the mark, where nothing is an option. -/
def commandLine (arguments : Arguments) : List String :=
  (if arguments.file then ["--file"] else []) ++ (if arguments.tree then ["--tree"] else []) ++
    arguments.values.map ("--value=" ++ ·) ++ ["--", arguments.contents]

/-- What that command line says. -/
def settings (arguments : Arguments) : List Setting :=
  (if arguments.file then [.file] else []) ++ (if arguments.tree then [.tree] else []) ++
    arguments.values.map .value ++ [.contents arguments.contents]

theorem says_flag {set : Bool} {argument : String} {flag : Setting} {rest : List String}
    {more : List Setting} (h : Complete argument.toList [flag]) (hrest : Says rest more) :
    Says ((if set then [argument] else []) ++ rest) ((if set then [flag] else []) ++ more) := by
  cases set with
  | false => exact hrest
  | true => exact .settings h hrest

theorem says_values (literals : List String) {rest : List String} {more : List Setting}
    (hrest : Says rest more) :
    Says (literals.map ("--value=" ++ ·) ++ rest) (literals.map .value ++ more) := by
  induction literals with
  | nil => exact hrest
  | cons literal literals ih =>
    have h : Complete ("--value=" ++ literal).toList [.value literal] := by
      simpa using Complete.value literal.toList
    exact (Says.settings h ih :)

theorem says_commandLine (arguments : Arguments) :
    Says arguments.commandLine arguments.settings := by
  simp only [commandLine, settings, List.append_assoc]
  exact says_flag .file (says_flag .tree (says_values _ (.endOfOptions [arguments.contents])))

/-- **All arguments have a command line that gives them**, whatever their texts look like. -/
theorem read?_commandLine (arguments : Arguments) :
    read? arguments.commandLine = some arguments := by
  have hsays := says_commandLine arguments
  obtain ⟨contents, values, tree, file⟩ := arguments
  have hfile : (values.map Setting.value).count .file = 0 := List.count_eq_zero.2 (by simp)
  have htree : (values.map Setting.value).count .tree = 0 := List.count_eq_zero.2 (by simp)
  refine read?_eq_some_iff.2 ⟨_, hsays, ?_, ?_, ?_, ?_⟩ <;> cases file <;> cases tree <;>
    simp [settings, contentsIn, valuesIn, hfile, htree]

end Formula.CommandLine.Arguments
