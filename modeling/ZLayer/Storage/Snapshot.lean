import Mathlib.Data.List.Sort
import ZLayer.Lib.Wire

/-!
# Snapshot — the digests of a layer

A container's upper layer is a directory tree.  Two functions compute a SHA-256 digest of it.
`create_snapshot` writes a tar archive and hashes the archive; `calculate_directory_digest` walks
the tree and hashes the names, sizes and contents it meets.  The archive, its compression and its
hash are those of the libraries `tar`, `zstd` and `sha2`, which are parameters here.
-/

namespace ZLayer.Storage

open Lib

/-- What an archive records of a node besides its name and contents. -/
structure NodeInfo where
  mode : Nat
  uid : Nat
  gid : Nat
  mtime : Int
  deriving DecidableEq, Repr

inductive FsNode
  | file (info : NodeInfo) (contents : List UInt8)
  | dir (info : NodeInfo) (entries : List (String × FsNode))
  | symlink (info : NodeInfo) (target : String)
  | special (info : NodeInfo)

structure LayerSnapshot where
  digest : String
  sizeBytes : Nat
  compressedSizeBytes : Nat
  createdAt : Int
  fileCount : Nat
  deriving DecidableEq, Repr

/-- The library functions that snapshots rest on. -/
structure LayerLib where
  /-- `hex::encode` of the SHA-256 hash. -/
  sha256 : List UInt8 → String
  /-- `append_dir_all(".", dir)` into a new archive. -/
  tar : FsNode → List UInt8
  /-- The number of entries of an archive. -/
  tarEntries : List UInt8 → Nat
  /-- `zstd` at a compression level. -/
  compress : Int → List UInt8 → List UInt8
  decompress : List UInt8 → Option (List UInt8)
  /-- The JSON form of the metadata. -/
  snapshotToVec : LayerSnapshot → List UInt8
  snapshotFromSlice : List UInt8 → Option LayerSnapshot

/-- What is assumed of them. -/
structure LayerLib.Lawful (lib : LayerLib) : Prop where
  sha256_injective : Function.Injective lib.sha256
  decompress_compress : ∀ level bytes, lib.decompress (lib.compress level bytes) = some bytes
  snapshotFromSlice_toVec : ∀ snap, lib.snapshotFromSlice (lib.snapshotToVec snap) = some snap

/-! ## `create_snapshot` -/

/-- The metadata and the compressed archive that `create_snapshot` leaves in the output file. -/
def createSnapshot (lib : LayerLib) (level : Int) (now : Int) (source : FsNode) :
    LayerSnapshot × List UInt8 :=
  let archive := lib.tar source
  let compressed := lib.compress level archive
  ({ digest := lib.sha256 archive
     sizeBytes := archive.length
     compressedSizeBytes := compressed.length
     createdAt := now
     fileCount := lib.tarEntries archive },
    compressed)

/-- The check that `extract_snapshot` makes before it unpacks: the archive has the digest that is
expected. -/
inductive Verified
  | archive (bytes : List UInt8)
  | undecodable
  | mismatch (actual : String)

def verifySnapshot (lib : LayerLib) (compressed : List UInt8) (expected : String) : Verified :=
  match lib.decompress compressed with
  | none => .undecodable
  | some archive =>
    if lib.sha256 archive = expected then .archive archive
    else .mismatch (lib.sha256 archive)

/-! ## `calculate_directory_digest` -/

def leBytes (n : Nat) : List UInt8 :=
  (List.range 8).map fun i => UInt8.ofNat (n / 256 ^ i)

/-- The path of an entry relative to the walked directory. -/
def relativePath (parent name : String) : String :=
  if parent = "" then name else parent ++ "/" ++ name

mutual

/-- What `hash_dir` feeds to the hasher for a node, after its path: size and contents of a file,
the entries of a directory in the order of their names, nothing for other nodes. -/
def nodeStream (path : String) : FsNode → List UInt8
  | .file _ contents => leBytes contents.length ++ contents
  | .dir _ entries =>
    ((entryStreams path entries).insertionSort fun a b => a.1 ≤ b.1).flatMap Prod.snd
  | .symlink .. => []
  | .special _ => []

def entryStreams (parent : String) : List (String × FsNode) → List (String × List UInt8)
  | [] => []
  | (name, node) :: rest =>
    (name, (relativePath parent name).toUTF8.toList ++
      nodeStream (relativePath parent name) node) :: entryStreams parent rest

end

def directoryStream (dir : FsNode) : List UInt8 :=
  nodeStream "" dir

def calculateDirectoryDigest (lib : LayerLib) (dir : FsNode) : String :=
  lib.sha256 (directoryStream dir)

/-! ## Libraries for concrete runs -/

namespace LayerLib

def byteString (bytes : List UInt8) : String :=
  String.ofList (bytes.map fun b => Char.ofNat b.toNat)

lemma toNat_byteChar (b : UInt8) : (Char.ofNat b.toNat).toNat = b.toNat := by
  have hbyte : ∀ n < 256, (Char.ofNat n).toNat = n := by decide +kernel
  exact hbyte b.toNat b.toNat_lt

lemma byteString_injective : Function.Injective byteString := by
  intro a b h
  refine List.map_injective_iff.mpr ?_ (String.ofList_injective h)
  intro x y hxy
  refine UInt8.toNat.inj ?_
  rw [← toNat_byteChar x, ← toNat_byteChar y]
  exact congrArg Char.toNat hxy

def snapshotFields (snap : LayerSnapshot) : List ℕ × ℕ × ℕ × ℤ × ℕ :=
  (snap.digest.toList.map Char.toNat, snap.sizeBytes, snap.compressedSizeBytes, snap.createdAt,
    snap.fileCount)

def snapshotOfFields (fields : List ℕ × ℕ × ℕ × ℤ × ℕ) : LayerSnapshot where
  digest := String.ofList (fields.1.map Char.ofNat)
  sizeBytes := fields.2.1
  compressedSizeBytes := fields.2.2.1
  createdAt := fields.2.2.2.1
  fileCount := fields.2.2.2.2

lemma snapshotOfFields_fields (snap : LayerSnapshot) :
    snapshotOfFields (snapshotFields snap) = snap := by
  have hchars : Char.ofNat ∘ Char.toNat = id := funext Char.ofNat_toNat
  simp [snapshotOfFields, snapshotFields, hchars]

def snapshotCodec : Codec LayerSnapshot :=
  ((Wire.varint.toCodec.list Wire.varint).pair
    (Wire.varint.toCodec.pair (Wire.varint.toCodec.pair
      (Wire.int.pair Wire.varint.toCodec)))).via snapshotFields
    (fun fields => some (snapshotOfFields fields))
    fun snap => by rw [snapshotOfFields_fields]

/-- Libraries with the assumed properties: a digest is the hashed text itself, nothing is
compressed, and an archive starts with the entry of the directory itself. -/
def plain : LayerLib where
  sha256 := byteString
  tar dir := 46 :: directoryStream dir
  tarEntries := List.length
  compress _ bytes := bytes
  decompress := some
  snapshotToVec := snapshotCodec.enc
  snapshotFromSlice := snapshotCodec.fromBytes

lemma plain_lawful : plain.Lawful where
  sha256_injective := byteString_injective
  decompress_compress _ _ := rfl
  snapshotFromSlice_toVec snap := (snapshotCodec.safe snap).roundTrips

end LayerLib

end ZLayer.Storage
