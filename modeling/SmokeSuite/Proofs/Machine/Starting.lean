import SmokeSuite.Machine
import SmokeSuite.Proofs.SearchPath.Order
import SmokeSuite.Proofs.Text.Utf8

namespace SmokeSuite

namespace Octets

theorem toBytes_ofBytes (bs : List UInt8) : (ofBytes bs).toBytes = bs := by
  rw [ofBytes, toBytes, List.map_map]
  refine (List.map_congr_left fun b _ => ?_).trans (List.map_id bs)
  have hb : b.toNat < 256 := b.toNat_lt
  have hvalid : b.toNat.isValidChar := Or.inl (by omega)
  have hchar : (Char.ofNat b.toNat).toNat = b.toNat := by
    rw [Char.ofNat, dif_pos hvalid]
    rfl
  simp [hchar]

theorem toPath_ofString (s : String) : (ofString s).toPath = s := by
  have hdecoded : Text.Utf8.decodeLossy (ofString s).toBytes = s.toList := by
    rw [ofString, toBytes_ofBytes]
    exact Text.Utf8.decodeLossy_encode s.toList
  rw [toPath, hdecoded, String.ofList_toList]

theorem slash_mem_ofString {s : String} (h : '/' ∈ s.toList) : '/' ∈ ofString s := by
  have hbyte : (47 : UInt8) ∈ s.toList.flatMap String.utf8EncodeChar :=
    List.mem_flatMap.2 ⟨'/', h, by decide⟩
  exact List.mem_map.2 ⟨47, hbyte, rfl⟩

end Octets

namespace Image

/-- What a file with this content comes to, started at a path with arguments. -/
def ofFile (files : FileTree) (directory : Location) (content : List UInt8) (path : Octets)
    (arguments : List Octets) : Except SystemError (Octets × List Octets) :=
  match ofContent? (Octets.ofBytes content) with
  | none => .error .badFormat
  | some (.native name) => .ok (name, path :: arguments)
  | some (.script interpreter argument) =>
    resolve files directory (maxDepth - 1) interpreter
      (interpreter :: argument.toList ++ path :: arguments)

theorem resolve_eq_ofFile {files : FileTree} {directory l : Location} {path : Octets}
    {content : List UInt8} (h : files.follow directory path.toPath = .ok (l, .file content true))
    (arguments : List Octets) :
    resolve files directory maxDepth path (path :: arguments) =
      ofFile files directory content path arguments := by
  have hdepth : maxDepth = (maxDepth - 1) + 1 := rfl
  rw [hdepth]
  simp only [resolve, h, bind, Except.bind]
  rfl

/-- A single place is resolved as it is, with its own error. -/
theorem search_singleton (f : Octets → Except SystemError (Octets × List Octets)) (place : Octets) :
    search f [place] .notFound = f place := by
  cases h : f place with
  | ok found => simp only [search, h]
  | error e => cases e <;> simp [search, h]

end Image

namespace Machine

/-- Arguments that a program can be started with. -/
def Fits (arguments : List String) : Prop :=
  ∀ a ∈ arguments, FileTree.hasZero a = false ∧ (Octets.ofString a).length < Image.maxArgument

/-- Whether a program is started from the file at a path, whatever its arguments and its input. -/
def Starts (m : Machine) (program path : String) : Prop :=
  ∃ l content, m.files.follow m.directory path = .ok (l, .file content true) ∧
    ∀ (limit : Duration) (arguments : List String) (input : Option (List UInt8)),
      Fits (program :: arguments) →
      m.invoke program limit arguments input = m.start program limit input
        (Image.ofFile m.files m.directory content (Octets.ofString path) (arguments.map Octets.ofString))

/-- With a slash in it, a path is not searched for. -/
theorem resolve_of_slash {m : Machine} {path : String} (hslash : '/' ∈ path.toList)
    {arguments : List String} (hfits : Fits (path :: arguments)) :
    m.resolve ((path :: arguments).map Octets.ofString) =
      Image.resolve m.files m.directory Image.maxDepth (Octets.ofString path)
        ((path :: arguments).map Octets.ofString) := by
  have hmem := Octets.slash_mem_ofString hslash
  have hne : (Octets.ofString path).isEmpty = false := by
    cases hs : Octets.ofString path with
    | nil => simp [hs] at hmem
    | cons => rfl
  have hshort : ((path :: arguments).map Octets.ofString).any (·.length ≥ Image.maxArgument) = false := by
    rw [List.any_map, List.any_eq_false]
    intro a ha
    simpa using (hfits a ha).2
  have hplaces : ∀ searchPath, Image.places searchPath (Octets.ofString path) = [Octets.ofString path] := by
    intro searchPath
    rw [Image.places, if_pos (List.contains_iff_mem.2 hmem)]
  rw [resolve, hshort]
  simp only [List.map_cons, List.headD_cons, hne, hplaces, Image.search_singleton, Bool.false_eq_true,
    if_false]

theorem starts_of_slash {m : Machine} {path : String} (hslash : '/' ∈ path.toList)
    (hprogram : m.files.LeadsToProgram m.directory path) : m.Starts path path := by
  obtain ⟨-, l, content, hfollow⟩ := hprogram
  refine ⟨l, content, hfollow, fun limit arguments input hfits => ?_⟩
  have hzero : (path :: arguments).any FileTree.hasZero = false := by
    rw [List.any_eq_false]
    intro a ha
    simp [(hfits a ha).1]
  have hpath : m.files.follow m.directory (Octets.ofString path).toPath = .ok (l, .file content true) := by
    rw [Octets.toPath_ofString, hfollow]
  rw [invoke, hzero, if_neg Bool.false_ne_true, resolve_of_slash hslash hfits, List.map_cons,
    Image.resolve_eq_ofFile hpath]

end Machine

end SmokeSuite
