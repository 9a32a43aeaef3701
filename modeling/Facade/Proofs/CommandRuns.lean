-- What a run of the command line does. The arguments are told apart first, without regard to what
-- they ask for. A run that succeeds on one file then delivers its facade once, and one that fails
-- outside a batch leaves no trace but a file that it has emptied, where a stray byte is in the
-- package.
import Facade.CommandLine
import Facade.Proofs.FileTrees

namespace Facade.CommandLine

/-! ## The arguments that a run takes notice of -/

/-- An argument, with its value if it has one. -/
inductive Argument where
  | help
  | batch
  | verbose
  | package (name : String)
  | output (path : String)
  | positional (text : String)
  | fault (error : UsageError)
  deriving DecidableEq, Repr

/-- The arguments up to the end of the line, the first fault or the first call for help. -/
def processed : List String → List Argument
  | [] => []
  | argument :: rest =>
    if argument = "--help" ∨ argument = "-h" then [.help]
    else if argument = "--package" then
      match rest with
      | [] => [.fault (.needsArgument argument)]
      | name :: more => .package name :: processed more
    else if argument = "-o" ∨ argument = "--output" then
      match rest with
      | [] => [.fault (.needsArgument argument)]
      | path :: more => .output path :: processed more
    else if argument = "--batch" then .batch :: processed rest
    else if argument = "-v" ∨ argument = "--verbose" then .verbose :: processed rest
    else if looksLikeFlag argument then [.fault (.unknownFlag argument)]
    else .positional argument :: processed rest

def Argument.package? : Argument → Option String
  | .package name => some name
  | _ => none

def Argument.output? : Argument → Option String
  | .output path => some path
  | _ => none

def Argument.positional? : Argument → Option String
  | .positional text => some text
  | _ => none

def Argument.fault? : Argument → Option UsageError
  | .fault error => some error
  | _ => none

/-- The package that is named last. -/
def lastPackage (arguments : List Argument) : Option String :=
  (arguments.filterMap Argument.package?).getLast?

/-- The file that is named last for the facade. -/
def lastOutput (arguments : List Argument) : Option String :=
  (arguments.filterMap Argument.output?).getLast?

/-- The file that is to be converted, unless it is the standard input. -/
def inputFile (arguments : List Argument) : Option String :=
  (arguments.filterMap Argument.positional?).head?.filter (· ≠ "-")

/-- Options with further arguments. -/
def Options.including (options : Options) (arguments : List Argument) : Options where
  batch := options.batch || decide (Argument.batch ∈ arguments)
  verbose := options.verbose || decide (Argument.verbose ∈ arguments)
  package := (lastPackage arguments).or options.package
  output := (lastOutput arguments).or options.output
  positional := options.positional ++ arguments.filterMap Argument.positional?

/-- What the arguments come to. -/
def requestOf (options : Options) (arguments : List Argument) : Request :=
  if .help ∈ arguments then .help
  else
    match arguments.findSome? Argument.fault? with
    | some error => .refuse error
    | none => (options.including arguments).request

theorem getLast?_filterMap_cons {α : Type} (f : α → Option String) (first : α) (rest : List α) :
    ((first :: rest).filterMap f).getLast? = ((rest.filterMap f).getLast?).or (f first) := by
  cases hfirst : f first with
  | none => simp [hfirst]
  | some value =>
    rw [List.filterMap_cons_some hfirst, List.getLast?_cons]
    cases (rest.filterMap f).getLast? <;> rfl

theorem including_nil (options : Options) : options.including [] = options := by
  simp [Options.including, lastPackage, lastOutput]

/-- What one argument changes. -/
def Options.take (options : Options) : Argument → Options
  | .batch => { options with batch := true }
  | .verbose => { options with verbose := true }
  | .package name => { options with package := some name }
  | .output path => { options with output := some path }
  | .positional text => { options with positional := options.positional ++ [text] }
  | .help | .fault _ => options

theorem including_singleton (options : Options) (argument : Argument) :
    options.including [argument] = options.take argument := by
  cases argument <;>
    simp [Options.including, Options.take, lastPackage, lastOutput, List.filterMap_cons,
      Argument.package?, Argument.output?, Argument.positional?]

/-- Arguments may be added one by one. -/
theorem including_cons (options : Options) (argument : Argument) (rest : List Argument) :
    options.including (argument :: rest) = (options.including [argument]).including rest := by
  have hpositional : (argument :: rest).filterMap Argument.positional? =
      [argument].filterMap Argument.positional? ++ rest.filterMap Argument.positional? := by
    rw [← List.filterMap_append, List.singleton_append]
  simp only [Options.including, lastPackage, lastOutput, getLast?_filterMap_cons, hpositional,
    List.filterMap_nil, List.getLast?_nil, Option.none_or, Option.or_assoc, List.append_assoc,
    List.mem_cons, List.not_mem_nil, or_false, Bool.decide_or, Bool.or_assoc]

/-- An argument that does not end the reading goes into the options. -/
theorem requestOf_cons (options : Options) {argument : Argument} (rest : List Argument)
    (hhelp : argument ≠ .help) (hfault : argument.fault? = none) :
    requestOf options (argument :: rest) = requestOf (options.take argument) rest := by
  rw [requestOf, requestOf, List.findSome?_cons, hfault, including_cons, including_singleton]
  simp [Ne.symm hhelp]

theorem read_eq (options : Options) (args : List String) :
    options.read args = requestOf options (processed args) := by
  fun_induction processed args generalizing options with
  | case1 => simp [Options.read, requestOf, including_nil]
  | case2 argument rest hhelp =>
    rcases hhelp with rfl | rfl <;> simp [Options.read, requestOf]
  | case3 => rfl
  | case4 name more _ ih =>
    rw [Options.read, requestOf_cons _ _ (by simp) rfl, ← ih]
    rfl
  | case5 argument _ _ houtput =>
    rcases houtput with rfl | rfl <;> rfl
  | case6 argument _ _ houtput path more ih =>
    rw [requestOf_cons _ _ (by simp) rfl, ← ih]
    rcases houtput with rfl | rfl <;> rfl
  | case7 rest _ _ _ ih =>
    rw [requestOf_cons _ _ (by simp) rfl, ← ih]
    simp [Options.read, Options.take]
  | case8 argument rest _ _ _ _ hverbose ih =>
    rw [requestOf_cons _ _ (by simp) rfl, ← ih]
    rcases hverbose with rfl | rfl <;> simp [Options.read, Options.take]
  | case9 argument rest hhelp hpackage houtput hbatch hverbose hflag =>
    simp_all [Options.read, requestOf, Argument.fault?]
  | case10 argument rest hhelp hpackage houtput hbatch hverbose hflag ih =>
    rw [requestOf_cons _ _ (by simp) rfl, ← ih]
    simp_all [Options.read, Options.take]

theorem request_of_batch {options : Options} (h : options.batch = true) :
    (∃ error, options.request = .refuse error) ∨
      ∃ folders, options.request = .batch folders options.verbose := by
  rw [Options.request, if_pos h]
  split
  · exact .inl ⟨_, rfl⟩
  · split
    · exact .inl ⟨_, rfl⟩
    · exact .inr ⟨_, rfl⟩

theorem request_of_not_batch {options : Options} (h : options.batch = false) :
    (1 < options.positional.length ∧ ∃ error, options.request = .refuse error) ∨
      options.request = .single (options.positional.head?.filter (· ≠ "-")) options.output
        options.package options.verbose := by
  rw [Options.request, if_neg (by simp [h])]
  split
  · rename_i hpositional
    exact .inl ⟨by simp [hpositional], _, rfl⟩
  · rename_i input hpositional
    by_cases hinput : input = "-" <;> simp [hpositional, hinput, Option.filter]
  · rename_i hpositional
    simp [hpositional]

/-- A request that is neither help, a refusal nor a batch is to convert what the arguments name. -/
theorem ofArgs_cases (args : List String) :
    let said := processed args
    (.help ∈ said ∧ Request.ofArgs args = .help) ∨
    (∃ error, Request.ofArgs args = .refuse error ∧
      (.fault error ∈ said ∨ .batch ∈ said ∨ 1 < (said.filterMap Argument.positional?).length)) ∨
    (.batch ∈ said ∧ ∃ folders verbose, Request.ofArgs args = .batch folders verbose) ∨
    ∃ verbose, Request.ofArgs args =
      .single (inputFile said) (lastOutput said) (lastPackage said) verbose := by
  intro said
  rw [Request.ofArgs, read_eq, requestOf]
  by_cases hhelp : .help ∈ said
  · exact .inl ⟨hhelp, if_pos hhelp⟩
  rw [if_neg hhelp]
  refine .inr ?_
  cases hfault : said.findSome? Argument.fault? with
  | some error =>
    obtain ⟨argument, hmem, hargument⟩ := List.exists_of_findSome?_eq_some hfault
    cases argument <;> cases hargument
    exact .inl ⟨_, rfl, .inl hmem⟩
  | none =>
    dsimp only
    by_cases hbatch : .batch ∈ said
    · have hmode : (Options.none.including said).batch = true := by
        simp [Options.including, hbatch]
      rcases request_of_batch hmode with ⟨error, herror⟩ | ⟨folders, hfolders⟩
      · exact .inl ⟨error, herror, .inr (.inl hbatch)⟩
      · exact .inr (.inl ⟨hbatch, folders, _, hfolders⟩)
    · have hmode : (Options.none.including said).batch = false := by
        simp [Options.including, Options.none, hbatch]
      rcases request_of_not_batch hmode with ⟨hmany, error, herror⟩ | hrequest
      · exact .inl ⟨error, herror, .inr (.inr hmany)⟩
      · refine .inr (.inr ⟨(Options.none.including said).verbose, hrequest.trans ?_⟩)
        simp [Options.including, Options.none, inputFile]

/-! ## One file -/

/-- What an input holds: a file that a path leads to, or the standard input. -/
def World.Holds (world : World) (bytes : List UInt8) : Option String → Prop
  | none => bytes = world.input
  | some path => ∃ place, world.tree.resolve? world.current path = some place ∧
      world.tree.file? place = some bytes

/-- The facade of an input in a package. -/
def World.Converts (world : World) (input : Option String) (package facade : String) : Prop :=
  ∃ bytes text, world.Holds bytes input ∧ Text.decodeUtf8 bytes = .ok text ∧
    convert text package = .ok facade

/-- Whether a file can be opened, or none is named. -/
def World.Writable (world : World) : Option String → Prop
  | none => True
  | some path => ∃ place, world.tree.resolve? world.current path = some place ∧
      world.tree.get? place ≠ some .folder

/-- Whether a facade in the package can be written. Only the standard output may take stray
bytes. -/
def World.takes (world : World) (package : String) (output : Option String) : Bool :=
  Text.isWhole package || output.isNone && world.takesStray

/-- The tree has the bytes at a place, unless that is the standard output, and all else is as
before. -/
def World.Leaves (world : World) (place : Location) (bytes : List UInt8) (tree : FileTree) : Prop :=
  ∀ other, tree.get? other =
    if other = place ∧ place ∉ world.outlets then some (.file bytes) else world.tree.get? other

/-- The run has put a facade where it belongs, and nothing else has changed. Where the file is the
standard output itself, the facade is printed. -/
def Outcome.Delivers (outcome : Outcome) (world : World) (facade : String) : Option String → Prop
  | none => outcome.output = facade ∧ outcome.tree = world.tree
  | some path => ∃ place, world.tree.resolve? world.current path = some place ∧
      outcome.output = (if place ∈ world.outlets then facade else "") ∧
      world.Leaves place (Text.encodeUtf8 facade) outcome.tree

/-- The file that a facade should go to is open and empty, and nothing else has changed. -/
def World.LeavesEmpty (world : World) (tree : FileTree) : Option String → Prop
  | none => tree = world.tree
  | some path => ∃ place, world.tree.resolve? world.current path = some place ∧
      world.Leaves place [] tree

theorem source_eq_ok {world : World} {input : Option String} {bytes : List UInt8} :
    world.source input = .ok bytes ↔ world.Holds bytes input := by
  cases input with
  | none => simp [World.source, World.Holds, eq_comm]
  | some path =>
    rw [World.source, World.Holds, ← Option.bind_eq_some_iff]
    split
    · rename_i found hfound
      simp [hfound]
    · rename_i hfound
      simp [hfound]

theorem sourceText_eq_ok {world : World} {input : Option String} {text : String} :
    world.sourceText input = .ok text ↔
      ∃ bytes, world.Holds bytes input ∧ Text.decodeUtf8 bytes = .ok text := by
  simp only [← source_eq_ok]
  cases hsource : world.source input with
  | error report => simp [World.sourceText, hsource, bind, Except.bind]
  | ok bytes =>
    simp only [World.sourceText, hsource, bind, Except.bind, Except.ok.injEq, exists_eq_left']
    split <;> rename_i hdecoded <;> simp [hdecoded]

theorem open?_eq_some {world : World} {path : String} {place : Location} :
    world.open? path = some place ↔ world.tree.resolve? world.current path = some place ∧
      world.tree.get? place ≠ some .folder := by
  rw [World.open?, Option.filter_eq_some_iff, Bool.not_eq_true', ← Bool.not_eq_true,
    FileTree.isFolder_iff]

/-- What is written replaces what stands at its place, and only that. -/
theorem leaves_written {world : World} {place : Location}
    (hfolder : world.tree.get? place ≠ some .folder) (bytes : List UInt8) :
    world.Leaves place bytes (world.written place bytes) := by
  intro other
  have hnotRoot : place ≠ [] := by
    rintro rfl
    exact hfolder (FileTree.get?_nil _)
  unfold World.written
  split
  · rename_i houtlet
    rw [List.contains_iff_mem] at houtlet
    rw [if_neg fun hother => hother.2 houtlet]
  · rename_i houtlet
    rw [List.contains_iff_mem] at houtlet
    simp only [FileTree.get?_put hnotRoot, houtlet, not_false_eq_true, and_true]

/-- A facade is delivered exactly if its file can be opened and its package can be written. -/
theorem deliver_cases (world : World) (log : List String) (package facade : String)
    (output : Option String) :
    let outcome := world.deliver log package facade output
    (world.takes package output ∧ outcome.exit = 0 ∧ outcome.Delivers world facade output) ∨
    (world.takes package output = false ∧ outcome.exit = 1 ∧ outcome.output = "" ∧
      outcome.crash = some .strayByte ∧ world.LeavesEmpty outcome.tree output) ∨
    ¬world.Writable output ∧ ∃ errors, outcome = world.stop 1 errors := by
  cases output with
  | none =>
    have htakes : world.takes package none = (Text.isWhole package || world.takesStray) := rfl
    simp only [World.deliver, htakes]
    split
    · rename_i hwhole
      exact .inl ⟨hwhole, rfl, rfl, rfl⟩
    · rename_i hstray
      exact .inr (.inl ⟨Bool.eq_false_iff.mpr hstray, rfl, rfl, rfl, rfl⟩)
  | some path =>
    have htakes : world.takes package (some path) = Text.isWhole package := Bool.or_false _
    simp only [World.deliver, htakes]
    split
    · rename_i hnone
      refine .inr (.inr ⟨?_, _, rfl⟩)
      rintro ⟨place, hplace⟩
      rw [open?_eq_some.mpr hplace] at hnone
      cases hnone
    · rename_i place hopen
      obtain ⟨hplace, hfolder⟩ := open?_eq_some.mp hopen
      split
      · rename_i hwhole
        refine .inl ⟨hwhole, rfl, place, hplace, ?_, leaves_written hfolder _⟩
        simp only [List.contains_iff_mem]
      · rename_i hstray
        exact .inr (.inl ⟨Bool.eq_false_iff.mpr hstray, rfl, rfl, rfl, place, hplace,
          leaves_written hfolder _⟩)

theorem converts_iff {world : World} {input : Option String} {package facade : String} :
    world.Converts input package facade ↔
      ∃ text, world.sourceText input = .ok text ∧ convert text package = .ok facade := by
  simp only [World.Converts, sourceText_eq_ok]
  constructor
  · rintro ⟨bytes, text, hbytes, hdecoded, hconvert⟩
    exact ⟨text, ⟨bytes, hbytes, hdecoded⟩, hconvert⟩
  · rintro ⟨text, ⟨bytes, hbytes, hdecoded⟩, hconvert⟩
    exact ⟨bytes, text, hbytes, hdecoded, hconvert⟩

/-- A run on one file delivers the facade of its input, comes upon a stray byte in its package, or
stops because there is no facade or no place for it. -/
theorem runSingle_cases (world : World) (input output package : Option String) (verbose : Bool) :
    let name := package.getD (defaultPackage (input.map Text.masked))
    let outcome := world.runSingle input output package verbose
    ((∃ facade, world.Converts input name facade ∧ outcome.Delivers world facade output) ∧
      world.takes name output ∧ outcome.exit = 0) ∨
    ((∃ facade, world.Converts input name facade) ∧ world.takes name output = false ∧
      outcome.exit = 1 ∧ outcome.output = "" ∧ outcome.crash = some .strayByte ∧
      world.LeavesEmpty outcome.tree output) ∨
    (∀ facade, world.Converts input name facade → ¬world.Writable output) ∧
      outcome.exit = 1 ∧ outcome.output = "" ∧ outcome.tree = world.tree := by
  intro name
  simp only [converts_iff, World.runSingle]
  split
  · rename_i report hreport
    exact .inr (.inr ⟨by simp [hreport], rfl, rfl, rfl⟩)
  · rename_i text htext
    split
    · rename_i error herror
      have hconvert : convert text name = .error error := by
        rw [convert, herror]
        rfl
      refine .inr (.inr ⟨by simp [htext, hconvert], ?_⟩)
      split <;> exact ⟨rfl, rfl, rfl⟩
    · rename_i file hfile
      have hconvert : convert text name = .ok (file.facade name) := by
        rw [convert, hfile]
        rfl
      rcases deliver_cases world (if verbose then file.notices.map Notice.message else []) name
        (file.facade name) output with
        ⟨htakes, hexit, hdelivers⟩ | ⟨hstray, hbreaks⟩ | ⟨hwritable, errors, hstop⟩
      · exact .inl ⟨⟨_, ⟨text, htext, hconvert⟩, hdelivers⟩, htakes, hexit⟩
      · exact .inr (.inl ⟨⟨_, text, htext, hconvert⟩, hstray, hbreaks⟩)
      · refine .inr (.inr ⟨fun _ _ => hwritable, ?_⟩)
        rw [hstop]
        exact ⟨rfl, rfl, rfl⟩

/-! ## The law -/

theorem exit_reportBatch (root out : Location) (batch : BatchEnd) (log : List String) :
    (reportBatch root out batch log).exit ≠ 2 := by
  unfold reportBatch
  dsimp only
  split
  · simp
  · split
    · simp
    · dsimp only
      split <;> simp

theorem exit_runBatch (world : World) (folders : List String) (verbose : Bool) :
    (world.runBatch folders verbose).exit ≠ 2 := by
  unfold World.runBatch
  dsimp only
  split
  · simp [World.stop]
  · split
    · exact exit_reportBatch _ _ _ _
    · simp

/-- A run that refuses its arguments, or fails outside a batch, prints nothing. It leaves every file
as it was, unless its package has a stray byte and its input converts: then the file that was named
last is left empty. A run on one file that succeeds has put the facade of its input, in the package
named last or the default one, into the file named last or else on the standard output, and changed
nothing else. With its arguments in order, an input that converts and a file that can be opened, it
does succeed exactly if the package can be written. -/
theorem a_run_delivers_once_or_leaves_at_most_an_empty_file (world : World) (args : List String) :
    let said := processed args
    let outcome := world.run args
    let input := inputFile said
    let output := lastOutput said
    let package := (lastPackage said).getD (defaultPackage (input.map Text.masked))
    (outcome.exit = 2 ∨ outcome.exit ≠ 0 ∧ .batch ∉ said → outcome.output = "" ∧
      (outcome.tree = world.tree ∨
        outcome.exit = 1 ∧ outcome.crash = some .strayByte ∧ world.takes package output = false ∧
          (∃ facade, world.Converts input package facade) ∧
          world.LeavesEmpty outcome.tree output)) ∧
    (outcome.exit = 0 → .help ∉ said → .batch ∉ said →
      ∃ facade, world.Converts input package facade ∧ outcome.Delivers world facade output) ∧
    (.help ∉ said → .batch ∉ said → (∀ error, .fault error ∉ said) →
      (said.filterMap Argument.positional?).length ≤ 1 →
      (∃ facade, world.Converts input package facade) → world.Writable output →
      if world.takes package output then outcome.exit = 0
      else outcome.exit = 1 ∧ outcome.crash = some .strayByte ∧
        world.LeavesEmpty outcome.tree output) := by
  intro said outcome input output package
  have hrun : outcome = world.perform (Request.ofArgs args) := rfl
  rcases ofArgs_cases args with ⟨hhelp, hrequest⟩ | ⟨error, hrequest, herror⟩ |
    ⟨hbatch, folders, verbose, hrequest⟩ | ⟨verbose, hrequest⟩
  all_goals rw [hrequest] at hrun
  · refine ⟨?_, fun _ hnot => absurd hhelp hnot, fun hnot => absurd hhelp hnot⟩
    simp [hrun, World.perform]
  · refine ⟨fun _ => by simp [hrun, World.perform, World.stop], ?_, ?_⟩
    · simp [hrun, World.perform, World.stop]
    · intro _ hnotBatch hfaultless hfew
      rcases herror with hfault | hbatch | hmany
      · exact absurd hfault (hfaultless error)
      · exact absurd hbatch hnotBatch
      · exact absurd hmany (Nat.not_lt.mpr hfew)
  · refine ⟨?_, fun _ _ hnot => absurd hbatch hnot, fun _ hnot => absurd hbatch hnot⟩
    rintro (htwo | ⟨-, hnot⟩)
    · rw [hrun] at htwo
      exact absurd htwo (exit_runBatch world folders verbose)
    · exact absurd hbatch hnot
  · rw [World.perform] at hrun
    have hcases := runSingle_cases world input output (lastPackage said) verbose
    dsimp only at hcases
    rw [← hrun] at hcases
    rcases hcases with ⟨hdelivers, htakes, hexit⟩ |
      ⟨hconverts, hstray, hexit, hnothing, hcrash, hempty⟩ | ⟨hnone, hexit, hnothing, htree⟩
    · refine ⟨by simp [hexit], fun _ _ _ => hdelivers, fun _ _ _ _ _ _ => ?_⟩
      rw [if_pos htakes]
      exact hexit
    · refine ⟨fun _ => ⟨hnothing, .inr ⟨hexit, hcrash, hstray, hconverts, hempty⟩⟩,
        by simp [hexit], fun _ _ _ _ _ _ => ?_⟩
      rw [if_neg (Bool.eq_false_iff.mp hstray)]
      exact ⟨hexit, hcrash, hempty⟩
    · refine ⟨fun _ => ⟨hnothing, .inl htree⟩, by simp [hexit], ?_⟩
      rintro - - - - ⟨facade, hconverts⟩ hwritable
      exact absurd hwritable (hnone facade hconverts)

/-- A refusal after `--batch`, a run whose output and package are named twice, one whose file is the
standard output, and one whose package has a stray byte. -/
theorem a_run_delivers_to_the_last_file_or_empties_it :
    let world : World := ⟨[], [], ["w"], ⟨[(["w"], .folder), (["w", "b"], .file [65]),
      (["dev"], .folder), (["dev", "stdout"], .file [])]⟩, [["dev", "stdout"]], false⟩
    let delivered := world.run ["-o", "a", "--package", "p", "-o", "b", "--package", "q"]
    let printed := world.run ["-o", "/dev/stdout", "--package", "q"]
    let crashed := world.run ["-o", "b", "--package", "\x00ÿ"]
    (world.run ["--batch", "-x"]).exit = 2 ∧ (world.run ["--batch", "-x"]).output = "" ∧
      (∃ facade, convert "" "q" = .ok facade ∧
        delivered.exit = 0 ∧ delivered.output = "" ∧ delivered.tree.get? ["w", "a"] = none ∧
        delivered.tree.get? ["w", "b"] = some (.file (Text.encodeUtf8 facade)) ∧
        printed.exit = 0 ∧ printed.output = facade) ∧
      crashed.exit = 1 ∧ crashed.output = "" ∧ crashed.tree.get? ["w", "b"] = some (.file []) := by
  intro world delivered printed crashed
  have hrefused : (world.run ["--batch", "-x"]).exit = 2 := by decide
  have hdelivered : delivered.exit = 0 := by decide +kernel
  have hprinted : printed.exit = 0 := by decide +kernel
  have hcrashed : crashed.exit = 1 := by decide +kernel
  have hfile : world.tree.resolve? world.current "b" = some ["w", "b"] := by decide +kernel
  have houtlet : world.tree.resolve? world.current "/dev/stdout" = some ["dev", "stdout"] := by
    decide +kernel
  obtain ⟨hrefusal, -⟩ := a_run_delivers_once_or_leaves_at_most_an_empty_file world
    ["--batch", "-x"]
  obtain ⟨-, hfirst, -⟩ := a_run_delivers_once_or_leaves_at_most_an_empty_file world
    ["-o", "a", "--package", "p", "-o", "b", "--package", "q"]
  obtain ⟨-, hsecond, -⟩ := a_run_delivers_once_or_leaves_at_most_an_empty_file world
    ["-o", "/dev/stdout", "--package", "q"]
  obtain ⟨hcrash, -⟩ := a_run_delivers_once_or_leaves_at_most_an_empty_file world
    ["-o", "b", "--package", "\x00ÿ"]
  obtain ⟨hsilent, hstays | ⟨-, -, -, -, place, hplace, htree⟩⟩ :=
    hcrash (.inr ⟨by rw [hcrashed]; decide, by decide⟩)
  · have hchanged : crashed.tree.get? ["w", "b"] ≠ some (.file [65]) := by decide +kernel
    rw [hstays] at hchanged
    exact absurd (by decide) hchanged
  refine ⟨hrefused, (hrefusal (.inl hrefused)).1, ?_, hcrashed, hsilent, ?_⟩
  · obtain ⟨facade, ⟨bytes, text, rfl, hdecoded, hconvert⟩, place, hplace, houtput, htree⟩ :=
      hfirst hdelivered (by decide) (by decide)
    obtain ⟨other, ⟨_, _, rfl, hagain, hsame⟩, outlet, hthere, hprint, -⟩ :=
      hsecond hprinted (by decide) (by decide)
    cases hdecoded
    cases hagain
    cases hplace.symm.trans hfile
    cases hthere.symm.trans houtlet
    cases hconvert.symm.trans hsame
    refine ⟨facade, hconvert, hdelivered, houtput, ?_, ?_, hprinted, hprint⟩
    · rw [htree, if_neg (by decide)]
      decide
    · rw [htree, if_pos (by decide)]
  · cases hplace.symm.trans hfile
    rw [htree, if_pos (by decide)]

end Facade.CommandLine
