import DataplaneVerdict.Files.System
import DataplaneVerdict.Settings.Assignment
import DataplaneVerdict.Text.Encoding

/-!
# `Settings.EnvironmentFile` — variables from a file

A file in the working directory may assign variables. A variable that is already set keeps its value. Another file,
another encoding and a replacing assignment can be asked for, by variables or by arguments of the program; the arguments
win. On request the program also tells what it does.

## Contents
- **Requests.** `EnvironmentFile.Options`, read from the environment and the arguments by `Options.of`.
- **Notes.** `Note` is a line that loading prints.
- **Loading.** `EnvironmentFile.load` gives the environment and the notes.
-/

namespace DataplaneVerdict.EnvironmentFile

/-- What is asked for; an empty text asks for nothing. -/
structure Options where
  encoding : String := ""
  path : String := ""
  /-- whether loading tells what it does -/
  debug : Bool := false
  /-- whether a variable that is already set is replaced -/
  replace : Bool := false
  /-- the key of an encrypted file -/
  key : String := ""

namespace Options

/-- The value of an argument that makes the request `name`; it is not empty and has no line end. -/
def argument? (name arg : String) : Option String :=
  let start := "dotenv_config_" ++ name ++ "="
  let value := arg.toList.drop start.length
  if Text.startsWith arg start && !value.isEmpty && !value.any (fun c => c = '\r' || Assignment.isLineEnd c) then
    some (String.ofList value)
  else none

/-- The value of a request: that of the last argument that makes it, or else of the variable with that ending. -/
def requested (env : Environment) (args : List String) (name ending : String) : String :=
  match (args.filterMap (argument? name)).getLast? with
  | some value => value
  | none => (env.lookup ("DOTENV_CONFIG_" ++ ending)).getD ""

/-- What the environment and the arguments ask for. -/
def of (env : Environment) (args : List String) : Options :=
  let key := requested env args "DOTENV_KEY" "DOTENV_KEY"
  { encoding := requested env args "encoding" "ENCODING"
    path := requested env args "path" "PATH"
    debug := !(requested env args "debug" "DEBUG").isEmpty
    replace := !(requested env args "override" "OVERRIDE").isEmpty
    key := if key.isEmpty then (env.lookup "DOTENV_KEY").getD "" else key }

end Options

inductive Note where
  | standardEncoding
  | notLoaded (path reason : String)
  | kept (name : String)
  | replaced (name : String)
  | loaded (count : Nat) (path : String)
  /-- there is a key and no encrypted file -/
  | keyWithoutFile

def Note.line : Note → String
  | standardEncoding => "[dotenv@16.6.1][DEBUG] No encoding is specified. UTF-8 is used by default"
  | notLoaded path reason => "[dotenv@16.6.1][DEBUG] Failed to load " ++ path ++ " " ++ reason
  | kept name => "[dotenv@16.6.1][DEBUG] \"" ++ name ++ "\" is already defined and was NOT overwritten"
  | replaced name => "[dotenv@16.6.1][DEBUG] \"" ++ name ++ "\" is already defined and WAS overwritten"
  | loaded count path => "[dotenv@16.6.1] injecting env (" ++ Number.natText count ++ ") from " ++ path
  | keyWithoutFile =>
    "[dotenv@16.6.1][WARN] You set DOTENV_KEY but you are missing a .env.vault file at null. " ++
      "Did you forget to build it?"

def fileName : String := ".env"

/-- The ending of an encrypted file's name. -/
def vaultSuffix : String := ".vault"

/-- A path with a tilde at its start replaced by the home directory. -/
def expandHome (env : Environment) (path : String) : String :=
  match path.toList with
  | '~' :: rest => Path.join ((env.lookup "HOME").getD "/root") (String.ofList rest)
  | _ => path

def pathOf (cwd : Location) (env : Environment) (o : Options) : String :=
  if o.path.isEmpty then (Path.resolve cwd fileName).text else expandHome env o.path

/-- The path of the encrypted file that a key is for. -/
def vaultPath (cwd : Location) (o : Options) : String :=
  if o.path.isEmpty then (Path.resolve cwd (fileName ++ vaultSuffix)).text
  else if Text.endsWith o.path vaultSuffix then o.path
  else o.path ++ vaultSuffix

/-- The name that asks for the bytes of a file as they are, which are no text. -/
def rawEncoding : String := "buffer"

/-- The text of the file, or why there is none. -/
def contents (fs : FileSystem) (path encoding : String) : Except String String :=
  let read (decode : Bytes → Except String String) : Except String String :=
    match fs.readBytes path with
    | .ok bytes => decode bytes
    | .error problem => .error problem.message
  if encoding.isEmpty then read fun bytes => .ok (Encoding.utf8.decode bytes)
  else if encoding = rawEncoding then read fun _ => .error ("Unknown encoding: " ++ encoding)
  else
    match Encoding.ofName? encoding with
    | none => .error ("The argument 'encoding' is invalid encoding. Received " ++ Quoted.shown encoding)
    | some e => read fun bytes => .ok (e.decode bytes)

/-- Adds one variable; the note says what became of one that was set before. -/
def assign (replace : Bool) (env : Environment) (name value : String) : Environment × List Note :=
  if (env.lookup name).isNone then (Environment.set env name value, [])
  else if replace then (Environment.set env name value, [.replaced name])
  else (env, [.kept name])

/-- Adds variables in order. -/
def assignAll (replace : Bool) (given : Environment) (env : Environment) : Environment × List Note :=
  given.foldl (fun (env, notes) v =>
    let (env, more) := assign replace env v.1 v.2
    (env, notes ++ more)) (env, [])

/-- Adds the variables of the file, with everything there is to tell. -/
def loadPlain (fs : FileSystem) (env : Environment) (o : Options) : Environment × List Note :=
  let path := pathOf fs.cwd env o
  let (given, trouble) : Environment × List Note :=
    match contents fs path o.encoding with
    | .ok text => (Value.orderFields (Assignment.parse text), [])
    | .error reason => ([], [.notLoaded path reason])
  let (env, notes) := assignAll o.replace given env
  (env, (if o.encoding.isEmpty then [.standardEncoding] else []) ++ trouble ++ notes ++
    [.loaded given.length (Path.relative fs.cwd path)])

/-- The environment with the variables of the file added, and the lines that this prints. An encrypted file is not
read. -/
def load (fs : FileSystem) (env : Environment) (args : List String) : Environment × List String :=
  let o := Options.of env args
  if !o.key.isEmpty && fs.pathExists (vaultPath fs.cwd o) then (env, [])
  else
    let (loaded, notes) := loadPlain fs env o
    (loaded, ((if o.key.isEmpty then [] else [Note.keyWithoutFile]) ++ if o.debug then notes else []).map Note.line)

end DataplaneVerdict.EnvironmentFile
