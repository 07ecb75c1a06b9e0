import HostScript.Arguments
import Mathlib.Data.List.Perm.Basic

/-!
# Spellings of a command line

A command line can be written in many ways: its options in any order, flags bundled with each other
and in front of an option with a value, values attached to their option or as the next argument, the
script anywhere where it is not taken for a value, or at the end behind a double dash. All spellings
of the same wishes are read as the same arguments.

## Implementation notes

A command line is a list of wishes, one for each thing that differs from the defaults. `Spelling`
says how a list of wishes is written, in its order, and knows nothing of reading. Reading grants one
wish after the other, so what is left to show is that the order of different wishes does not
matter.
-/

namespace HostScript.Arguments

/-! ### Wishes -/

/-- An option without a value. -/
inductive Flag where
  | debug | interactive
  deriving DecidableEq

/-- The letter of a flag. -/
def Flag.letter : Flag → Char
  | .debug => 'd'
  | .interactive => 'i'

/-- One thing that a command line asks for. -/
inductive Wish where
  | flag (f : Flag)
  | noSettings
  | settings (path : String)
  | inline (source : String)
  | timeout (milliseconds : Nat)
  | linger (milliseconds : Nat)
  | script (path : String)
  deriving DecidableEq

/-- What arguments ask for beyond the defaults, each thing once. -/
def wishes (a : Arguments) : List Wish :=
  (if a.debug then [.flag .debug] else []) ++
  (if a.interactive then [.flag .interactive] else []) ++
  (match a.settings with
    | .search => []
    | .skip => [.noSettings]
    | .file path => [.settings path]) ++
  (match a.source with
    | .stdin => []
    | .inline source => [.inline source]
    | .file path => [.script path]) ++
  (a.timeout.map .timeout).toList ++ (a.linger.map .linger).toList

/-- The times of the wish are words of 64 bits. -/
def Wish.Fits : Wish → Prop
  | .timeout n => n ≤ Number.maxWord
  | .linger n => n ≤ Number.maxWord
  | _ => True

/-! ### Spellings -/

/-- An argument that starts with a dash. -/
def IsDashed (arg : String) : Prop := arg.toList.head? = some '-'

instance : DecidablePred IsDashed := fun arg =>
  inferInstanceAs (Decidable (arg.toList.head? = some '-'))

/-- One argument: a dash, flags, and other characters. -/
def bundle (flags : List Flag) (more : List Char) : String :=
  String.ofList ('-' :: (flags.map Flag.letter ++ more))

/-- A text is the value of an option for a wish. -/
inductive Means : ValueOption → String → Wish → Prop
  | settings (path : String) : Means .settings path (.settings path)
  | inline (source : String) : Means .inline source (.inline source)
  | timeout {text : String} {n : Nat} (numeral : Number.IsNumeral text.toList n) :
      Means .timeout text (.timeout n)
  | linger {text : String} {n : Nat} (numeral : Number.IsNumeral text.toList n) :
      Means .linger text (.linger n)

/-- Arguments that ask for wishes, in their order. -/
inductive Spelling : List Wish → List String → Prop
  | nothing : Spelling [] []
  | scriptLast (path : String) : Spelling [.script path] ["--", path]
  | script {path : String} (plain : ¬ IsDashed path) {ws : List Wish} {argv : List String}
      (rest : Spelling ws argv) : Spelling (.script path :: ws) (path :: argv)
  | flags {flags : List Flag} (some_ : flags ≠ []) {ws : List Wish} {argv : List String}
      (rest : Spelling ws argv) : Spelling (flags.map .flag ++ ws) (bundle flags [] :: argv)
  | attached (flags : List Flag) {o : ValueOption} {value : String} {w : Wish}
      (means : Means o value w) (some_ : value ≠ "") {ws : List Wish} {argv : List String}
      (rest : Spelling ws argv) :
      Spelling (flags.map .flag ++ w :: ws) (bundle flags (o.letter :: value.toList) :: argv)
  | detached (flags : List Flag) {o : ValueOption} {value : String} {w : Wish}
      (means : Means o value w) (plain : o = .settings → ¬ IsDashed value) {ws : List Wish}
      {argv : List String} (rest : Spelling ws argv) :
      Spelling (flags.map .flag ++ w :: ws) (bundle flags [o.letter] :: value :: argv)
  | bare (flags : List Flag) {ws : List Wish} {argv : List String}
      (next : ∀ arg, argv.head? = some arg → IsDashed arg) (rest : Spelling ws argv) :
      Spelling (flags.map .flag ++ .noSettings :: ws)
        (bundle flags [ValueOption.settings.letter] :: argv)

/-- The arguments are spelled by `argv`: each thing that they ask for is given once. -/
def Spells (a : Arguments) (argv : List String) : Prop :=
  ∃ ws, ws.Perm a.wishes ∧ Spelling ws argv

/-! ### Granting wishes -/

/-- Arguments, and arguments that are no options, after a wish is granted. -/
def grant (state : Arguments × List String) : Wish → Arguments × List String
  | .flag .debug => ({ state.1 with debug := true }, state.2)
  | .flag .interactive => ({ state.1 with interactive := true }, state.2)
  | .noSettings => ({ state.1 with settings := .skip }, state.2)
  | .settings path => ({ state.1 with settings := .file path }, state.2)
  | .inline source => ({ state.1 with source := .inline source }, state.2)
  | .timeout n => ({ state.1 with timeout := some n }, state.2)
  | .linger n => ({ state.1 with linger := some n }, state.2)
  | .script path => (state.1, state.2 ++ [path])

section Reading

variable {a : Arguments} {others : List String} {w : Wish}

/-- A value grants the wish that it means. -/
theorem Means.exists_setOption {o : ValueOption} {value : String} (means : Means o value w)
    (fits : w.Fits) (a : Arguments) (others : List String) :
    ∃ a', a.setOption o value = .ok a' ∧ grant (a, others) w = (a', others) := by
  have word {text : String} {n : Nat} (numeral : Number.IsNumeral text.toList n)
      (small : n ≤ Number.maxWord) : Number.wordOf? text = some n :=
    Number.wordOf?_eq_some_iff.mpr ⟨numeral, small⟩
  cases means with
  | settings path => exact ⟨_, rfl, rfl⟩
  | inline source => exact ⟨_, rfl, rfl⟩
  | timeout numeral =>
      refine ⟨_, ?_, rfl⟩
      rw [setOption, millis, word numeral fits]
      rfl
  | linger numeral =>
      refine ⟨_, ?_, rfl⟩
      rw [setOption, millis, word numeral fits]
      rfl

/-- Flags are granted before what is behind them in their argument. -/
theorem readLetters_flags (a : Arguments) (others : List String) (flags : List Flag)
    (more : List Char) : ∃ a', (flags.map Wish.flag).foldl grant (a, others) = (a', others) ∧
      a.readLetters (flags.map Flag.letter ++ more) = a'.readLetters more := by
  induction flags generalizing a with
  | nil => exact ⟨a, rfl, rfl⟩
  | cons f rest ih =>
      cases f with
      | debug => exact ih { a with debug := true }
      | interactive => exact ih { a with interactive := true }

/-- A bundle is read letter by letter; its last option may want a value. -/
theorem readFrom_bundle {flags : List Flag} {more : List Char} (letters : flags ≠ [] ∨ more ≠ [])
    (plain : more.head? ≠ some '-') {a' : Arguments} {wanting : Option ValueOption}
    (read : a.readLetters (flags.map Flag.letter ++ more) = .ok (a', wanting))
    (argv : List String) :
    readFrom a others none (bundle flags more :: argv) = readFrom a' others wanting argv := by
  obtain ⟨c, cs, eq, apart⟩ : ∃ c cs, flags.map Flag.letter ++ more = c :: cs ∧ c ≠ '-' := by
    cases flags with
    | cons f rest => exact ⟨f.letter, _, rfl, by cases f <;> decide⟩
    | nil =>
        cases more with
        | nil => simp at letters
        | cons c cs => exact ⟨c, cs, rfl, by simpa using plain⟩
  have other : bundle flags more ≠ "--" := by
    intro same
    have chars := congrArg String.toList same
    rw [bundle, String.toList_ofList, eq] at chars
    exact apart (List.cons.inj (List.cons.inj chars).2).1
  have argument : a.readArgument others (bundle flags more) = .ok (a', others, wanting) := by
    rw [eq] at read
    simp only [readArgument, bundle, String.toList_ofList, eq, read]
    rfl
  rw [readFrom]
  simp only [if_neg other, argument]

theorem letter_ne_dash (o : ValueOption) : o.letter ≠ '-' := by
  cases o <;> decide

theorem readLetters_option (a : Arguments) (o : ValueOption) (value : List Char) :
    a.readLetters (o.letter :: value) =
      if value.isEmpty then .ok (a, some o)
      else do return (← a.setOption o (String.ofList value), none) := by
  cases o <;> rfl

/-- An argument without a dash is no option. -/
theorem readFrom_plain {arg : String} (plain : ¬ IsDashed arg) (argv : List String) :
    readFrom a others none (arg :: argv) = readFrom a (others ++ [arg]) none argv := by
  have other : arg ≠ "--" := by
    rintro rfl
    exact plain rfl
  have argument : a.readArgument others arg = .ok (a, others ++ [arg], none) := by
    simp only [readArgument]
    split
    · next dashed => exact absurd (congrArg List.head? dashed) plain
    · rfl
  rw [readFrom]
  simp only [if_neg other, argument]

/-- An option that wants a value takes the next argument. -/
theorem readFrom_value {o : ValueOption} {value : String} {a' : Arguments}
    (set : a.setOption o value = .ok a') (plain : o = .settings → ¬ IsDashed value)
    (argv : List String) :
    readFrom a others (some o) (value :: argv) = readFrom a' others none argv := by
  cases o with
  | settings =>
      cases set
      rw [readFrom]
      exact if_neg (plain rfl)
  | inline | timeout | linger => simp only [readFrom, set]

/-- An option for a settings file does not take an argument with a dash, and asks for none then. -/
theorem readFrom_bare {argv : List String} (next : ∀ arg, argv.head? = some arg → IsDashed arg) :
    readFrom a others (some .settings) argv =
      readFrom { a with settings := .skip } others none argv := by
  cases argv with
  | nil => rfl
  | cons arg rest =>
      rw [readFrom, readFrom]
      exact if_pos (next arg rfl)

/-- Reading grants the wishes that are spelled, one after the other. -/
theorem readFrom_spelling {ws : List Wish} {argv : List String} (spelled : Spelling ws argv)
    (fits : ∀ w ∈ ws, w.Fits) (a : Arguments) (others : List String) :
    readFrom a others none argv = .ok (ws.foldl grant (a, others)) := by
  induction spelled generalizing a others with
  | nothing => rfl
  | scriptLast path => rfl
  | script plain _ ih =>
      rw [List.forall_mem_cons] at fits
      rw [readFrom_plain plain]
      exact ih fits.2 a (others ++ [_])
  | @flags flags some_ ws argv rest ih =>
      rw [List.forall_mem_append] at fits
      obtain ⟨a', granted, read⟩ := readLetters_flags a others flags []
      rw [readFrom_bundle (.inl some_) (by simp) read, List.foldl_append, granted]
      exact ih fits.2 a' others
  | @attached flags o value w means some_ ws argv rest ih =>
      rw [List.forall_mem_append, List.forall_mem_cons] at fits
      obtain ⟨a', granted, read⟩ := readLetters_flags a others flags (o.letter :: value.toList)
      obtain ⟨a'', set, granted'⟩ := means.exists_setOption fits.2.1 a' others
      have attached : a'.readLetters (o.letter :: value.toList) = .ok (a'', none) := by
        rw [readLetters_option, if_neg (by simpa using some_), String.ofList_toList, set]
        rfl
      rw [readFrom_bundle (.inr (by simp)) (by simp [letter_ne_dash]) (read.trans attached),
        List.foldl_append, granted, List.foldl_cons, granted']
      exact ih fits.2.2 a'' others
  | @detached flags o value w means plain ws argv rest ih =>
      rw [List.forall_mem_append, List.forall_mem_cons] at fits
      obtain ⟨a', granted, read⟩ := readLetters_flags a others flags [o.letter]
      obtain ⟨a'', set, granted'⟩ := means.exists_setOption fits.2.1 a' others
      rw [readFrom_bundle (.inr (by simp)) (by simp [letter_ne_dash])
        (read.trans (readLetters_option a' o [])), readFrom_value set plain,
        List.foldl_append, granted, List.foldl_cons, granted']
      exact ih fits.2.2 a'' others
  | @bare flags ws argv next rest ih =>
      rw [List.forall_mem_append, List.forall_mem_cons] at fits
      obtain ⟨a', granted, read⟩ := readLetters_flags a others flags [ValueOption.settings.letter]
      rw [readFrom_bundle (.inr (by simp)) (by decide)
        (read.trans (readLetters_option a' .settings [])), readFrom_bare next,
        List.foldl_append, granted]
      exact ih fits.2.2 _ others

end Reading

/-! ### The order of wishes -/

/-- The arguments ask for a wish. -/
def Asks (a : Arguments) : Wish → Prop
  | .flag .debug => a.debug = true
  | .flag .interactive => a.interactive = true
  | .noSettings => a.settings = .skip
  | .settings path => a.settings = .file path
  | .inline source => a.source = .inline source
  | .timeout n => a.timeout = some n
  | .linger n => a.linger = some n
  | .script path => a.source = .file path

section Order

variable {a : Arguments} {w w' : Wish}

theorem asks_of_mem_wishes (mem : w ∈ a.wishes) : a.Asks w := by
  simp only [wishes, List.mem_append, Option.mem_toList, Option.map_eq_some_iff] at mem
  obtain ((((debug | interactive) | settings) | source) | ⟨n, timeout, rfl⟩) | ⟨n, linger, rfl⟩ :=
    mem
  · split at debug <;> simp_all [Asks]
  · split at interactive <;> simp_all [Asks]
  · split at settings <;> simp_all [Asks]
  · split at source <;> simp_all [Asks]
  · exact timeout
  · exact linger

/-- Wishes of the same arguments can be granted in either order: they are for different things, or
they are the same. -/
theorem grant_comm (asked : a.Asks w) (asked' : a.Asks w') (state : Arguments × List String) :
    grant (grant state w) w' = grant (grant state w') w := by
  rcases w with ⟨⟨⟩⟩ | _ | _ | _ | _ | _ | _ <;> rcases w' with ⟨⟨⟩⟩ | _ | _ | _ | _ | _ | _ <;>
    simp_all [grant, Asks]

/-- The script among the arguments that are no options. -/
def scripts (a : Arguments) : List String :=
  match a.source with
  | .file path => [path]
  | _ => []

/-- The arguments without a script. -/
def unscripted (a : Arguments) : Arguments :=
  match a.source with
  | .file _ => { a with source := .stdin }
  | _ => a

/-- Wishes granted in the order of the fields give the arguments back, but for the script. -/
theorem foldl_grant_wishes (a : Arguments) :
    a.wishes.foldl grant ({}, []) = (a.unscripted, a.scripts) := by
  obtain ⟨settings, source, timeout, linger, interactive, debug⟩ := a
  simp only [wishes, List.foldl_append]
  have debugged : (if debug then [Wish.flag .debug] else []).foldl grant ({}, []) =
      ({ debug }, []) := by
    cases debug <;> rfl
  have asked : (if interactive then [Wish.flag .interactive] else []).foldl grant ({ debug }, []) =
      ({ interactive, debug }, []) := by
    cases interactive <;> rfl
  rw [debugged, asked]
  cases timeout <;> cases linger <;> cases settings <;> cases source <;> rfl

theorem withOthers_scripts (named : a.source ≠ .file "-") :
    a.unscripted.withOthers a.scripts = .ok a := by
  obtain ⟨settings, source, timeout, linger, interactive, debug⟩ := a
  cases source with
  | stdin => rfl
  | inline source => rfl
  | file path =>
      have other : path ≠ "-" := by
        rintro rfl
        exact named rfl
      simp [unscripted, scripts, withOthers, other]

end Order

/-- Every spelling of arguments is read as them. -/
theorem read_of_spells {a : Arguments} (named : a.source ≠ .file "-")
    (timeout : ∀ n, a.timeout = some n → n ≤ Number.maxWord)
    (linger : ∀ n, a.linger = some n → n ≤ Number.maxWord)
    {argv : List String} (spelled : a.Spells argv) : read argv = .ok a := by
  obtain ⟨ws, perm, spelling⟩ := spelled
  have asked (w : Wish) (mem : w ∈ ws) : a.Asks w := asks_of_mem_wishes (perm.mem_iff.mp mem)
  have fits (w : Wish) (mem : w ∈ ws) : w.Fits := by
    cases w with
    | timeout n => exact timeout n (asked _ mem)
    | linger n => exact linger n (asked _ mem)
    | _ => trivial
  have granted : ws.foldl grant ({}, []) = (a.unscripted, a.scripts) := by
    calc ws.foldl grant ({}, []) = a.wishes.foldl grant ({}, []) :=
          perm.foldl_eq' (fun w mem w' mem' => grant_comm (asked w mem) (asked w' mem')) _
      _ = (a.unscripted, a.scripts) := foldl_grant_wishes a
  rw [read, readFrom_spelling spelling fits, granted]
  exact withOthers_scripts named

/-- Arguments that ask for something of each kind. -/
def demanding : Arguments where
  settings := .skip
  source := .file "-x.ds"
  timeout := some 5
  linger := some 0
  interactive := true
  debug := true

/-- Flags in front of options, values attached and detached, no settings file, a dashed script. -/
theorem read_demanding : demanding.source ≠ .file "-" ∧
    demanding.Spells ["-it", "+05", "-w0", "-df", "--", "-x.ds"] ∧
    read ["-it", "+05", "-w0", "-df", "--", "-x.ds"] = .ok demanding := by
  have named : demanding.source ≠ .file "-" := by decide
  have spelled : demanding.Spells ["-it", "+05", "-w0", "-df", "--", "-x.ds"] := by
    refine ⟨[.flag .interactive, .timeout 5, .linger 0, .flag .debug, .noSettings, .script "-x.ds"],
      by decide, ?_⟩
    have script : Spelling [.script "-x.ds"] ["--", "-x.ds"] := .scriptLast _
    have bare := Spelling.bare [.debug] (by rintro arg ⟨⟩; rfl) script
    have five : Number.IsNumeral "+05".toList 5 :=
      ⟨['0', '5'], .inr rfl, by decide, List.all_eq_true.mp rfl, rfl⟩
    have zero : Number.IsNumeral "0".toList 0 :=
      ⟨['0'], .inl rfl, by decide, List.all_eq_true.mp rfl, rfl⟩
    exact .detached [.interactive] (.timeout five) (by decide)
      (.attached [] (.linger zero) (by decide) bare)
  refine ⟨named, spelled, read_of_spells named ?_ ?_ spelled⟩
  · rintro n ⟨⟩
    decide
  · rintro n ⟨⟩
    decide

end HostScript.Arguments
