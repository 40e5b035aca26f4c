import GraphGateway.Files.Path
import GraphGateway.Proofs.Text.Words
import Mathlib.Data.List.TakeDrop

/-!
# The extension of a path

A path that ends in a dot and an ending has that ending for its extension,
unless nothing stands between the last slash and the dot: then the dot begins
the name of the file, and a name that only begins with a dot has no extension
(`FilePath.extension?_append`).
-/

namespace GraphGateway

open Text (splitOn)

namespace FilePath

/-- **Whether no name has begun** at the end of a path: there is nothing, or a
slash. -/
def IsOpen (stem : String) : Prop := ∀ c ∈ stem.toList.getLast?, c = '/'

instance (stem : String) : Decidable (IsOpen stem) :=
  decidable_of_iff (stem.toList.getLast?.all (· == '/') = true) (by
    rw [IsOpen]
    cases stem.toList.getLast? <;> simp)

variable {stem e : String}

/-- The last piece is empty where no name has begun. -/
theorem isOpen_iff {before : List (List Char)} {last : List Char}
    (h : splitOn (· == '/') stem.toList = before ++ [last]) : IsOpen stem ↔ last = [] := by
  have hlast : (splitOn (· == '/') stem.toList).getLast? = some last := by
    rw [h, List.getLast?_concat]
  rw [IsOpen]
  generalize stem.toList = s at hlast
  obtain rfl | ⟨s, c, rfl⟩ := s.eq_nil_or_concat
  · obtain rfl := Option.some.inj hlast
    simp
  · rw [List.concat_eq_append] at hlast ⊢
    have hend : (∀ d ∈ (s ++ [c]).getLast?, d = '/') ↔ c = '/' := by simp
    rw [hend]
    by_cases hc : c = '/'
    · rw [Text.splitOn_append_cons (by simpa using hc)] at hlast
      simpa [hc, splitOn, Text.splitOnAux, eq_comm] using hlast
    · have hfree : ∀ d ∈ [c], (d == '/') = false := by simpa using hc
      obtain ⟨before', last', -, happend⟩ := Text.splitOn_append hfree s
      rw [happend, List.getLast?_concat] at hlast
      obtain rfl := Option.some.inj hlast
      simp [hc]

/-- **What can stand behind the dot of an extension**: something, but neither a
slash nor another dot. -/
structure IsEnding (e : String) : Prop where
  /-- There is something. -/
  ne_nil : e.toList ≠ []
  /-- There is no slash. -/
  noSlash : ∀ c ∈ e.toList, (c == '/') = false
  /-- There is no other dot. -/
  noDot : ∀ c ∈ e.toList, (c != '.') = true

/-- A path that ends in a dot and an ending leads to a file whose name does, and
where no name has begun before the dot that is the whole name. -/
theorem exists_fileName?_append (he : IsEnding e) (stem : String) :
    ∃ last : List Char, (IsOpen stem ↔ last = [])
      ∧ fileName? (stem ++ "." ++ e) = some (String.ofList (last ++ '.' :: e.toList)) := by
  have hfree : ∀ c ∈ '.' :: e.toList, (c == '/') = false :=
    List.forall_mem_cons.mpr ⟨rfl, he.noSlash⟩
  obtain ⟨before, last, hstem, hsplit⟩ := Text.splitOn_append hfree stem.toList
  refine ⟨last, isOpen_iff hstem, ?_⟩
  have hpieces : pieces (stem ++ "." ++ e)
      = before.map String.ofList ++ [String.ofList (last ++ '.' :: e.toList)] := by
    have htext : (stem ++ "." ++ e).toList = stem.toList ++ '.' :: e.toList := by simp
    rw [pieces, htext, hsplit, List.map_append, List.map_singleton]
  have hne (other : String) (hother : ∀ c ∈ other.toList.getLast?, c = '.') :
      String.ofList (last ++ '.' :: e.toList) ≠ other := by
    rintro rfl
    obtain ⟨init, c, hend⟩ := (List.eq_nil_or_concat e.toList).resolve_left he.ne_nil
    have hlast : (String.ofList (last ++ '.' :: e.toList)).toList.getLast? = some c := by
      rw [String.toList_ofList, hend, List.concat_eq_append, ← List.cons_append,
        ← List.append_assoc, List.getLast?_concat]
    have hdot := he.noDot c (by simp [hend])
    simp [hother c hlast] at hdot
  have hfull : (stem ++ "." ++ e).isEmpty = false := by simp
  rw [fileName?, ofText, hfull, if_neg Bool.false_ne_true]
  dsimp only [Option.bind_some]
  have hkept : (String.ofList (last ++ '.' :: e.toList) != ""
      && String.ofList (last ++ '.' :: e.toList) != ".") = true := by
    simp only [Bool.and_eq_true, bne_iff_ne]
    exact ⟨hne "" (by simp), hne "." (by simp)⟩
  have hparts : ((pieces (stem ++ "." ++ e)).filter fun part => part != "" && part != ".").getLast?
      = some (String.ofList (last ++ '.' :: e.toList)) := by
    rw [hpieces, List.filter_append, List.filter_singleton, hkept]
    exact List.getLast?_concat
  rw [hparts]
  split
  · next heq => exact absurd (Option.some.inj heq) (hne ".." (by simp))
  · rfl

/-- **The extension of a path is its ending**, behind a dot, if a name has begun
before the dot. -/
theorem extension?_append (he : IsEnding e) (stem : String) :
    extension? (stem ++ "." ++ e) = if IsOpen stem then none else some e := by
  obtain ⟨last, hopen, hname⟩ := exists_fileName?_append he stem
  have hspan : (last ++ '.' :: e.toList).reverse.span (· != '.')
      = (e.toList.reverse, '.' :: last.reverse) := by
    have hrun : ∀ c ∈ e.toList.reverse, (c != '.') = true := fun c hc =>
      he.noDot c (List.mem_reverse.mp hc)
    have htext : (last ++ '.' :: e.toList).reverse = e.toList.reverse ++ '.' :: last.reverse := by
      simp
    rw [htext, List.span_eq_takeWhile_dropWhile, List.takeWhile_append_of_pos hrun,
      List.dropWhile_append_of_pos hrun]
    simp
  rw [extension?, hname, Option.bind_some]
  simp only [String.toList_ofList, hspan]
  obtain rfl | ⟨init, c, rfl⟩ := last.eq_nil_or_concat
  · rw [if_pos (hopen.mpr rfl)]
    rfl
  · rw [if_neg (by simp [hopen])]
    simp

end FilePath

end GraphGateway
