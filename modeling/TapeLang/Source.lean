import TapeLang.Program.OfTokens
import TapeLang.Text.Encoding

/-!
# Sources of program text

Program text comes from a stream of characters or of bytes, or from a file.  Bytes are UTF-8 and are
taken as they are, without regard to signatures and line ends; files are read as text.
-/

namespace TapeLang

/-! ## Streams -/

/-- A stream to read a program from. -/
inductive SourceStream where
  /-- Characters. -/
  | text (source : String)
  /-- Bytes. -/
  | bytes (data : List UInt8)
  /-- A stream that cannot be read, for the given reason. -/
  | broken (reason : String)
deriving DecidableEq, Repr

/-- Why no program comes from a stream. -/
inductive SourceError where
  /-- The stream cannot be read. -/
  | broken (reason : String)
  /-- The bytes are not text. -/
  | undecodable (e : Text.DecodeError)
  /-- The text is no program. -/
  | invalid (e : ReadFailure)
deriving DecidableEq, Repr

/-- The text of a stream. -/
def SourceStream.contents : SourceStream → Except SourceError String
  | .text source => .ok source
  | .broken reason => .error (.broken reason)
  | .bytes data =>
    match Text.utf8Decode data with
    | .error e => .error (.undecodable e)
    | .ok chars => .ok (String.ofList chars)

/-- Reads a program from a stream. -/
def Lexer.parseStream (lexer : Lexer) (stream : SourceStream) : Except SourceError Program :=
  match stream.contents with
  | .error e => .error e
  | .ok source =>
    match lexer.parse source with
    | .error e => .error (.invalid e)
    | .ok program => .ok program

/-! ## Files -/

/-- A directory: its files with their contents, and the names of the directories in it. -/
structure Directory where
  files : List (String × List UInt8)
  directories : List String := []
deriving DecidableEq, Repr

/-- Why a file cannot be opened. -/
inductive FileError where
  | missing (name : String)
  | isDirectory (name : String)
deriving DecidableEq, Repr

/-- The wording of each cause. -/
def FileError.message : FileError → String
  | .missing name => "[Errno 2] No such file or directory: " ++ Text.quoted name
  | .isDirectory name => "[Errno 21] Is a directory: " ++ Text.quoted name

/-- The contents of a file. -/
def Directory.read (directory : Directory) (name : String) : Except FileError (List UInt8) :=
  match directory.files.lookup name with
  | some bytes => .ok bytes
  | none =>
    if directory.directories.contains name || name == "." || name == ".." then
      .error (.isDirectory name)
    else .error (.missing name)

/-- Why a file yields no text. -/
inductive TextFileError where
  | file (e : FileError)
  | undecodable (e : Text.DecodeError)
deriving DecidableEq, Repr

/-- The wording of each cause. -/
def TextFileError.message : TextFileError → String
  | .file e => e.message
  | .undecodable e => e.message

/-- The contents of a file as text. -/
def Directory.readText (directory : Directory) (encoding : Text.Encoding) (name : String) :
    Except TextFileError String :=
  match directory.read name with
  | .error e => .error (.file e)
  | .ok bytes =>
    match Text.readText encoding bytes with
    | .error e => .error (.undecodable e)
    | .ok text => .ok text

end TapeLang
