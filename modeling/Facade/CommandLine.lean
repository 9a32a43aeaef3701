-- The command line: one file, or all files below a folder. A run is a function of the
-- arguments, the environment, the input and the files.
import Facade.Batch
import Facade.Text.Stray
namespace Facade.CommandLine

/-! ## Arguments -/

/-- What the arguments ask for. -/
structure Options where
  batch : Bool
  verbose : Bool
  package : Option String
  output : Option String
  positional : List String
  deriving DecidableEq, Repr

/-- Nothing asked for. -/
def Options.none : Options := ⟨false, false, .none, .none, []⟩

/-- Why arguments are refused. -/
inductive UsageError where
  | needsArgument (flag : String)
  | unknownFlag (flag : String)
  | unexpectedArgument (argument : String)
  | notForBatch
  deriving DecidableEq, Repr

/-- The wording of a refusal. -/
def UsageError.message : UsageError → String
  | .needsArgument flag => flag ++ " requires an argument"
  | .unknownFlag flag => "unknown flag '" ++ Text.shown flag ++ "'"
  | .unexpectedArgument argument => "unexpected argument '" ++ Text.shown argument ++ "'"
  | .notForBatch => "--package and --output do not apply to --batch"

/-- What to do. -/
inductive Request where
  | help
  | refuse (error : UsageError)
  | single (input output package : Option String) (verbose : Bool)
  | batch (folders : List String) (verbose : Bool)
  deriving DecidableEq, Repr

/-- Whether an argument looks like a flag. A hyphen alone stands for the standard input. -/
def looksLikeFlag (argument : String) : Bool :=
  argument.toList.head? == some '-' && argument != "-"

/-- The request of options that were all read. -/
def Options.request (options : Options) : Request :=
  if options.batch then
    match options.positional with
    | _ :: _ :: third :: _ => .refuse (.unexpectedArgument third)
    | folders =>
      if options.package.isSome || options.output.isSome then .refuse .notForBatch
      else .batch folders options.verbose
  else
    match options.positional with
    | _ :: second :: _ => .refuse (.unexpectedArgument second)
    | [input] =>
      .single (if input == "-" then .none else some input) options.output options.package
        options.verbose
    | [] => .single .none options.output options.package options.verbose

/-- Reads arguments from left to right. Help, and the first fault, end the reading. -/
def Options.read (options : Options) : List String → Request
  | [] => options.request
  | "--package" :: rest =>
    match rest with
    | [] => .refuse (.needsArgument "--package")
    | name :: more => { options with package := some name }.read more
  | "-o" :: rest =>
    match rest with
    | [] => .refuse (.needsArgument "-o")
    | file :: more => { options with output := some file }.read more
  | "--output" :: rest =>
    match rest with
    | [] => .refuse (.needsArgument "--output")
    | file :: more => { options with output := some file }.read more
  | argument :: rest =>
    if argument == "--help" || argument == "-h" then .help
    else if argument == "--batch" then { options with batch := true }.read rest
    else if argument == "-v" || argument == "--verbose" then
      { options with verbose := true }.read rest
    else if looksLikeFlag argument then .refuse (.unknownFlag argument)
    else { options with positional := options.positional ++ [argument] }.read rest

/-- The request of an argument list. -/
def Request.ofArgs (args : List String) : Request := Options.none.read args

/-! ## Texts -/

/-- Lines, each ended by a line feed. -/
def unlines (lines : List String) : String :=
  String.join (lines.map (· ++ "\n"))

/-- A line that reports an error. -/
def errorLine (message : String) : String := "error: " ++ message

/-- The help text. -/
def usage : String :=
  unlines
    ["dts2scala [OPTIONS] [INPUT] [-o OUTPUT]",
     "dts2scala --batch [INPUT_DIR] [OUTPUT_DIR]",
     "",
     "Convert TypeScript declaration files (.d.ts) to Scala.js facades.",
     "",
     "Options:",
     "  --package NAME      Scala package of the output (default: derived from",
     "                      INPUT, or \"custom\" when reading stdin)",
     "  -o, --output FILE   Write output to FILE instead of stdout",
     "  --batch             Convert every .d.ts under INPUT_DIR into OUTPUT_DIR",
     "                      (defaults: $INPUT_FOLDER or ./samples,",
     "                      $OUTPUT_FOLDER or ./output)",
     "  -v, --verbose       Log skipped and degraded declarations",
     "  --help              Show this help message"]

/-! ## Runs -/

/-- What a run starts from. -/
structure World where
  environment : List (String × String)
  input : List UInt8
  current : Location
  /-- The files. What a batch finds has no stray bytes in its name. -/
  tree : FileTree
  /-- The places that are the standard output itself. -/
  outlets : List Location
  /-- Whether the standard output takes stray bytes. -/
  takesStray : Bool

/-- What ends a run without a report. -/
inductive Crash where
  /-- A type in the input is about one that is not there. -/
  | missingOperand
  /-- What is to be written has a stray byte. -/
  | strayByte
  deriving DecidableEq, Repr

/-- What a run ends with. -/
structure Outcome where
  exit : Nat
  output : String
  errors : String
  tree : FileTree
  crash : Option Crash

/-- The end of a run that changes nothing. -/
def World.stop (world : World) (exit : Nat) (errors : List String) : Outcome :=
  ⟨exit, "", unlines errors, world.tree, none⟩

/-! ## One file -/

/-- The report of a conversion that failed. -/
def convertErrorLine : ConvertError → String
  | .unreadable (.malformed error) =>
    "error:" ++ toString error.line ++ ":" ++ toString error.column ++ ": "
      ++ error.fault.message
  | error => errorLine error.message

/-- The bytes to convert, or the report of a file that cannot be opened. -/
def World.source (world : World) : Option String → Except String (List UInt8)
  | none => .ok world.input
  | some path =>
    match (world.tree.resolve? world.current path).bind world.tree.file? with
    | some bytes => .ok bytes
    | none => .error (errorLine ("cannot open '" ++ Text.shown path ++ "'"))

/-- The text to convert, or a report. -/
def World.sourceText (world : World) (input : Option String) : Except String String := do
  match Text.decodeUtf8 (← world.source input) with
  | .ok text => .ok text
  | .error _ => .error (errorLine "invalid utf-8 in input")

/-- The place of a file that can be opened to write into it. -/
def World.open? (world : World) (path : String) : Option Location :=
  (world.tree.resolve? world.current path).filter (!world.tree.isFolder ·)

/-- The tree with bytes written into the file at a place. What is written to the standard output
leaves no file behind. -/
def World.written (world : World) (place : Location) (bytes : List UInt8) : FileTree :=
  if world.outlets.contains place then world.tree else world.tree.put place (.file bytes)

/-- Puts a facade in a package where it belongs: into a file, or on the standard output. A file is
emptied when it is opened, before a stray byte in the package shows. -/
def World.deliver (world : World) (log : List String) (package facade : String) :
    Option String → Outcome
  | none =>
    if Text.isWhole package || world.takesStray then ⟨0, facade, unlines log, world.tree, none⟩
    else ⟨1, "", unlines log, world.tree, some .strayByte⟩
  | some path =>
    match world.open? path with
    | none => world.stop 1 (log ++ [errorLine ("cannot write '" ++ Text.shown path ++ "'")])
    | some place =>
      if Text.isWhole package then
        ⟨0, if world.outlets.contains place then facade else "", unlines log,
          world.written place (Text.encodeUtf8 facade), none⟩
      else ⟨1, "", unlines log, world.written place [], some .strayByte⟩

/-- Converts one file. -/
def World.runSingle (world : World) (input output package : Option String) (verbose : Bool) :
    Outcome :=
  match world.sourceText input with
  | .error report => world.stop 1 [report]
  | .ok text =>
    let package := package.getD (defaultPackage (input.map Text.masked))
    match parseFor text package with
    | .error error =>
      if error.isReported then world.stop 1 [convertErrorLine error]
      else ⟨1, "", "", world.tree, some .missingOperand⟩
    | .ok file =>
      let log := if verbose then file.notices.map Notice.message else []
      world.deliver log package (file.facade package) output

/-! ## All files -/

/-- The folder that is read when none is named. -/
def defaultInputFolder : String := "./samples"

/-- The folder that is written when none is named. -/
def defaultOutputFolder : String := "./output"

/-- A folder from the arguments, the environment or the default. -/
def World.folder (world : World) (named : Option String) (variable_ default : String) : String :=
  (named.or (world.environment.lookup variable_)).getD default

/-- The text of a place below another. -/
def below (place : Location) (target : Location) : String :=
  Path.text ⟨"", target.drop place.length⟩

/-- The variable that names the folder to read. -/
def inputVariable : String := "INPUT_FOLDER"

/-- The variable that names the folder to write. -/
def outputVariable : String := "OUTPUT_FOLDER"

/-- The folder that a batch reads. -/
def World.inputFolder (world : World) (folders : List String) : String :=
  world.folder folders[0]? inputVariable defaultInputFolder

/-- The folder that a batch writes. -/
def World.outputFolder (world : World) (folders : List String) : String :=
  world.folder folders[1]? outputVariable defaultOutputFolder

/-- What a batch says first. -/
def batchHead (root out : Location) : List String :=
  ["Scanning for .d.ts files in: " ++ FileTree.placeText root,
   "Output folder: " ++ FileTree.placeText out]

/-- What a batch says at its end. -/
def summary (run : BatchRun) : String :=
  "Conversion complete: " ++ toString run.converted.length ++ "/" ++ toString run.total
    ++ " files converted successfully."

/-- The end of a batch that was run. -/
def reportBatch (root out : Location) (batch : BatchEnd) (log : List String) : Outcome :=
  let head := batchHead root out
  if batch.brokeOff.isSome then
    ⟨1, unlines head, unlines log, batch.tree, some .missingOperand⟩
  else if batch.total == 0 then
    ⟨0, unlines (head ++ ["No .d.ts files found in the input folder."]), unlines log, batch.tree,
      none⟩
  else
    let converted := batch.converted.map fun target => "Converted: " ++ below out target
    let failed := batch.failed.map fun (relative, fault) =>
      errorLine (relative.text ++ ": " ++ fault.message)
    ⟨if batch.failed.isEmpty then 0 else 1,
      unlines (head ++ converted ++ [summary batch.toBatchRun]), unlines (log ++ failed),
      batch.tree, none⟩

/-- Converts all files below a folder. Stray bytes in the name of a folder show before anything is
converted. -/
def World.runBatch (world : World) (folders : List String) (verbose : Bool) : Outcome :=
  let input := world.inputFolder folders
  let root := FileTree.namedPlace world.current input
  let out := FileTree.namedPlace world.current (world.outputFolder folders)
  if !world.tree.isFolder root then
    world.stop 1 [errorLine ("not a directory '" ++ Text.shown input ++ "'")]
  else if (batchHead root out).all Text.isWhole || world.takesStray then
    let batch := convertFolder world.tree root out
    reportBatch root out batch (if verbose then batch.events.map (·.message root) else [])
  else
    ⟨1, unlines ((batchHead root out).takeWhile Text.isWhole), "", world.tree, some .strayByte⟩

/-! ## All runs -/

/-- Does what is asked for. -/
def World.perform (world : World) : Request → Outcome
  | .help => ⟨0, usage, "", world.tree, none⟩
  | .refuse error => world.stop 2 [errorLine error.message]
  | .single input output package verbose => world.runSingle input output package verbose
  | .batch folders verbose => world.runBatch folders verbose

/-- A run with arguments. -/
def World.run (world : World) (args : List String) : Outcome :=
  world.perform (Request.ofArgs args)

end Facade.CommandLine
