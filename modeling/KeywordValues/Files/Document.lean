import KeywordValues.Catalog.Document
import KeywordValues.Files.Basic

/-!
# Documents of limited size

A document is a regular file of UTF-8 text. It is refused if its size is over a limit, first by the
size that is reported for it and then by what is read. `Catalog.ofFile` reads a catalog in this way,
and refuses symbolic links and documents with too many keywords.
-/

namespace KeywordValues

/-- Why a file is refused. -/
inductive Refusal where
  | link
  | notRegular
  | tooLarge (size : Nat) (max : UInt64)
  | grown (max : UInt64)
  | tooManyKeywords (max keywords : Nat)
deriving DecidableEq, Repr

/-- Why a document is not read. -/
inductive DocumentError where
  | io (path : String) (fault : FileFault)
  | refused (path : String) (reason : Refusal)
deriving DecidableEq, Repr

namespace DocumentError

/-- What is refused. -/
def refusalText (path : String) : Refusal → String
  | .link => "catalog symlink: " ++ path
  | .notRegular => "not a regular file: " ++ path
  | .tooLarge size max => "file too large (" ++ Decimal.naturalText size ++ " bytes, max " ++
      Decimal.naturalText max.toNat ++ "): " ++ path
  | .grown max => "file grew past " ++ Decimal.naturalText max.toNat ++
      " bytes while reading: " ++ path
  | .tooManyKeywords max keywords => "catalog with more than " ++ Decimal.naturalText max ++
      " keywords: " ++ Decimal.naturalText keywords

/-- The wording of the error. -/
def message : DocumentError → String
  | .io path fault => "failed reading " ++ path ++ ": " ++ fault.message
  | .refused path reason => "refusing to load " ++ refusalText path reason

end DocumentError

/-- How many bytes are read at most under a limit: one more, so that a longer file shows, but no
more than a word counts. -/
def readLimit (max : UInt64) : Nat := min (max.toNat + 1) (UInt64.size - 1)

/-- What is read of a file under a limit. -/
def RegularFile.taken (f : RegularFile) (max : UInt64) : ByteArray :=
  if f.content.size ≤ readLimit max then f.content else f.content.extract 0 (readLimit max)

/-- The text of a file whose reported size is within a limit. -/
def RegularFile.text (f : RegularFile) (path : String) (max : UInt64) :
    Except DocumentError String :=
  match String.fromUTF8? (f.taken max) with
  | none => .error (.io path .notUtf8)
  | some text =>
      if max.toNat < text.utf8ByteSize then .error (.refused path (.grown max)) else .ok text

/-- The text of the document at a path. -/
def FileSystem.readDocument (fs : FileSystem) (path : String) (max : UInt64) :
    Except DocumentError String :=
  match fs.target path with
  | .error fault => .error (.io path fault)
  | .ok .special => .error (.refused path .notRegular)
  | .ok (.regular f) =>
      if max.toNat < f.size then .error (.refused path (.tooLarge f.size max)) else f.text path max

/-- The limit for documents where none is given, in bytes. -/
def defaultMaxSize : UInt64 := 256 * 1024

/-- The limits for a catalog file. -/
structure CatalogLimits where
  maxKeywords : Nat := 1024
  maxSize : UInt64 := defaultMaxSize
deriving DecidableEq, Repr

/-- Why a catalog file is not loaded. -/
inductive CatalogFileError where
  | document (e : DocumentError)
  | catalog (e : CatalogError)
deriving DecidableEq, Repr

namespace CatalogFileError

/-- The wording of the error. -/
def message : CatalogFileError → String
  | .document e => e.message
  | .catalog e => e.message

end CatalogFileError

namespace Catalog

/-- The catalog of a document that was read from a path. Its keywords are counted before any of them
is looked at. -/
def ofDocument (path text : String) (limits : CatalogLimits) : Except CatalogFileError Catalog :=
  match Json.read text with
  | .error e => .error (.catalog (.invalid e))
  | .ok j =>
      match j.fields? with
      | none => .error (.catalog .notAnObject)
      | some fields =>
          if limits.maxKeywords < fields.size then
            .error (.document (.refused path (.tooManyKeywords limits.maxKeywords fields.size)))
          else (empty.extendByFields fields).mapError .catalog

/-- The catalog in the file at a path. -/
def ofFile (fs : FileSystem) (path : String) (limits : CatalogLimits := {}) :
    Except CatalogFileError Catalog :=
  match fs.isLink path with
  | .error fault => .error (.document (.io path fault))
  | .ok true => .error (.document (.refused path .link))
  | .ok false =>
      match fs.readDocument path limits.maxSize with
      | .error e => .error (.document e)
      | .ok text => ofDocument path text limits

end Catalog

end KeywordValues
