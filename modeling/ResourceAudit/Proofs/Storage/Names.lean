import ResourceAudit.Storage.Tree

/-!
# Trees with the same names

Where files and directories are, and which files lie below a directory, depends on names
alone and not on what the files hold.
-/

namespace ResourceAudit

namespace FileTree

/-- Trees that differ at most in the bytes of their files. -/
structure SameNames (t t' : FileTree) : Prop where
  current : t.current = t'.current
  directories : t.directories = t'.directories
  files : t.files.map Prod.fst = t'.files.map Prod.fst

theorem isSome_lookup_iff {files : List (List String × List UInt8)} {place : List String} :
    (files.lookup place).isSome = true ↔ place ∈ files.map Prod.fst := by
  induction files with
  | nil => simp
  | cons file files ih =>
      obtain ⟨name, bytes⟩ := file
      rw [List.lookup_cons, List.map_cons, List.mem_cons]
      cases hname : place == name with
      | true => simp [eq_of_beq hname]
      | false =>
          have hne : place ≠ name := ne_of_beq_false hname
          rw [ih]
          simp [hne]

/-- Whether there is a file at a place depends on names alone. -/
theorem isSome_content?_iff {t : FileTree} {place : List String} :
    (t.content? place).isSome = true ↔ place ∈ t.files.map Prod.fst := by
  unfold content?
  rw [isSome_lookup_iff, List.map_reverse, List.mem_reverse]

theorem any_files_eq (t : FileTree) (f : List String → Bool) :
    (t.files.any fun (file, _) => f file) = (t.files.map Prod.fst).any f := by
  rw [List.any_map]
  rfl

section SameNames

variable {t t' : FileTree} (h : t.SameNames t')

include h

theorem isSome_content?_congr (place : List String) :
    (t.content? place).isSome = (t'.content? place).isSome := by
  rw [Bool.eq_iff_iff, isSome_content?_iff, isSome_content?_iff, h.files]

theorem hasDirectory_congr (place : List String) :
    t.hasDirectory place = t'.hasDirectory place := by
  unfold hasDirectory
  rw [any_files_eq t fun file => place.isPrefixOf file && place.length < file.length,
    any_files_eq t' fun file => place.isPrefixOf file && place.length < file.length,
    h.current, h.directories, h.files]

theorem walk_congr (place components : List String) :
    t.walk place components = t'.walk place components := by
  induction components generalizing place with
  | nil => rfl
  | cons component rest ih =>
      rw [walk, walk, hasDirectory_congr h, isSome_content?_congr h, ih]

theorem resolve_congr (p : Path) : t.resolve p = t'.resolve p := by
  unfold resolve
  rw [h.current, walk_congr h]

theorem isDirectory_congr (p : Path) : t.isDirectory p = t'.isDirectory p := by
  unfold isDirectory
  rw [resolve_congr h]
  split
  · exact hasDirectory_congr h _
  · rfl

theorem isFile_congr (p : Path) : t.isFile p = t'.isFile p := by
  unfold isFile
  rw [resolve_congr h]
  split
  · exact isSome_content?_congr h _
  · rfl

theorem filesBelow_congr (p : Path) : t.filesBelow p = t'.filesBelow p := by
  unfold filesBelow below
  rw [resolve_congr h, h.files]

end SameNames

end FileTree

end ResourceAudit
