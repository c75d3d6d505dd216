import StableWatch.Fs.View
/-!
# Stores of files

Loading a configuration, creating a default one and keeping the build history need only a few
calls on a file system: read a whole file, tell whether something stands at a path (through
links), make a directory with its parents, and write a whole file. `FileStore` gathers them for
a file system of any type, so the same loading code runs on the in-memory tree and on the host.
-/

namespace StableWatch

/-- The calls on a file system of type `σ` that reading and writing whole files needs. -/
structure FileStore (σ : Type) where
  /-- The bytes of the file a path leads to. -/
  read : σ → String → Except FsError (List UInt8)
  /-- Whether a path leads to something; a failure other than a missing entry is an error. -/
  present : σ → String → Except FsError Bool
  /-- Makes a directory with its missing parents. -/
  makeDirs : σ → String → Except FsError σ
  /-- Writes a whole file, making it when it is missing. -/
  write : σ → String → List UInt8 → Except FsError σ

end StableWatch
