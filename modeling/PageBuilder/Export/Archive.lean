import PageBuilder.Export.Format
/-! Archives of files, and their bytes in the zip format. Times and permissions of
the entries are fixed, so equal files give equal archives. -/
namespace PageBuilder.Export

/-! ### Checksums -/

/-- The polynomial of the checksum, its lowest power first. -/
def polynomial : UInt32 := 0xedb88320

def checksumBits : Nat → UInt32 → UInt32
  | 0, crc => crc
  | n + 1, crc =>
    checksumBits n (if crc &&& 1 = 1 then (crc >>> 1) ^^^ polynomial else crc >>> 1)

def checksum (bytes : ByteArray) : UInt32 :=
  bytes.foldl (fun crc byte => checksumBits 8 (crc ^^^ byte.toUInt32)) 0xffffffff ^^^ 0xffffffff

/-- Eight hexadecimal digits. -/
def hexWord (word : UInt32) : String :=
  let digits := Nat.toDigits 16 word.toNat
  String.ofList (List.replicate (8 - digits.length) '0' ++ digits)

/-! ### Entries -/

structure ArchiveEntry where
  name : String
  content : String
  deriving DecidableEq, Repr

namespace ArchiveEntry

def bytes (e : ArchiveEntry) : ByteArray := e.content.toUTF8

def size (e : ArchiveEntry) : Nat := e.content.utf8ByteSize

def crc (e : ArchiveEntry) : UInt32 := checksum e.bytes

/-- Readable by all, writable by the owner. -/
def mode : String := "100644"

/-- The earliest time that the format can hold. -/
def modified : String := "1980-01-01 00:00:00"

def method : String := "Deflated"

end ArchiveEntry

/-- The first file whose path an earlier one has. -/
def firstDuplicate? (seen : List String) : List ExportFile → Option String
  | [] => none
  | f :: rest => if f.path ∈ seen then some f.path else firstDuplicate? (f.path :: seen) rest

/-- The entries of an archive of files, in their order. -/
def archive (files : List ExportFile) : Except ExportError (List ArchiveEntry) :=
  match firstDuplicate? [] files with
  | some path => .error (.duplicatePath path)
  | none => .ok (files.map fun f => ⟨f.path, f.content⟩)

/-! ### Bytes -/

namespace Zip

/-- A number in `width` bytes, the lowest first. -/
def number (width n : Nat) : List UInt8 :=
  match width with
  | 0 => []
  | width + 1 => UInt8.ofNat (n % 256) :: number width (n / 256)

/-- The largest block that is kept without compression. -/
def blockSize : Nat := 65535

/-- Contents as blocks without compression; `blocks` follow the first one. -/
def storedBlocks (content : ByteArray) (start : Nat) : Nat → ByteArray → ByteArray
  | blocks, done =>
    let size := min blockSize (content.size - start)
    let header := [if blocks = 0 then 1 else 0] ++ number 2 size ++ number 2 (blockSize - size)
    let done := done ++ ByteArray.mk header.toArray ++ content.extract start (start + size)
    match blocks with
    | 0 => done
    | blocks + 1 => storedBlocks content (start + size) blocks done

def compressed (content : ByteArray) : ByteArray :=
  storedBlocks content 0 ((content.size - 1) / blockSize) .empty

/-- The fields that a local and a central header share: version, flags, method,
time, date, checksum, sizes and the length of the name. -/
def common (e : ArchiveEntry) (packed : Nat) : List UInt8 :=
  number 2 20 ++ number 2 0x0800 ++ number 2 8 ++ number 2 0 ++ number 2 0x21 ++
    number 4 e.crc.toNat ++ number 4 packed ++ number 4 e.size ++
    number 2 e.name.utf8ByteSize

def localRecord (e : ArchiveEntry) : ByteArray :=
  let packed := compressed e.bytes
  ByteArray.mk (number 4 0x04034b50 ++ common e packed.size ++ number 2 0).toArray ++
    e.name.toUTF8 ++ packed

def centralRecord (e : ArchiveEntry) (offset : Nat) : ByteArray :=
  let packed := (compressed e.bytes).size
  ByteArray.mk (number 4 0x02014b50 ++ number 2 0x0314 ++ common e packed ++ number 2 0 ++
    number 2 0 ++ number 2 0 ++ number 2 0 ++ number 4 (0o100644 * 0x10000) ++
    number 4 offset).toArray ++ e.name.toUTF8

/-- The records of all entries, and the directory of those at their offsets. -/
def records : List ArchiveEntry → ByteArray → ByteArray → ByteArray × ByteArray
  | [], contents, directory => (contents, directory)
  | e :: rest, contents, directory =>
    records rest (contents ++ localRecord e) (directory ++ centralRecord e contents.size)

def bytes (entries : List ArchiveEntry) : ByteArray :=
  let (contents, directory) := records entries .empty .empty
  contents ++ directory ++ ByteArray.mk
    (number 4 0x06054b50 ++ number 2 0 ++ number 2 0 ++ number 2 entries.length ++
      number 2 entries.length ++ number 4 directory.size ++ number 4 contents.size ++
      number 2 0).toArray

end Zip

end PageBuilder.Export
