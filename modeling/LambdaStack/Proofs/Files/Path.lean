import LambdaStack.Files.Path
import LambdaStack.Proofs.Text.Segments

/-!
# Joined paths and parents

A path that was put together piece by piece ends with the pieces that were added, whatever base it
starts from, so that the name of the directory of a file is the last but one piece. The parents of a
path are spelled by its first pieces.
-/

namespace LambdaStack

namespace Path

theorem pieces_append (front back : String) :
    pieces (front ++ "/" ++ back) = pieces front ++ pieces back := by
  have chars_eq : (front ++ "/" ++ back).toList = front.toList ++ '/' :: back.toList := by simp
  rw [pieces, chars_eq, Text.segments_append_cons, List.map_append]
  rfl

/-- A text without separators is one piece. -/
theorem pieces_of_not_mem {piece : String} (simple : '/' ∉ piece.toList) :
    pieces piece = [piece] := by
  rw [pieces, Text.segments_of_not_mem simple, List.map_singleton, String.ofList_toList]

theorem isAbsolute_of_not_mem {piece : String} (simple : '/' ∉ piece.toList) :
    isAbsolute piece = false := by
  rw [isAbsolute, beq_eq_false_iff_ne]
  exact fun starts => simple (List.mem_of_head? starts)

/-- A base is followed by a single piece directly when it is empty, and otherwise after a separator,
which may end it. -/
theorem join_eq_append {piece : String} (base : String) (simple : '/' ∉ piece.toList) :
    base = "" ∧ join base piece = piece ∨
      ∃ front, join base piece = front ++ "/" ++ piece ∧
        (base = front ++ "/" ∨ base = front ∧ front ≠ "") := by
  rw [join, isAbsolute_of_not_mem simple]
  by_cases empty : base = ""
  · exact .inl (by simp [empty])
  · by_cases closed : base.toList.getLast? = some '/'
    · obtain ⟨front, front_eq⟩ := List.getLast?_eq_some_iff.mp closed
      have base_eq : base = String.ofList front ++ "/" := by
        rw [← String.toList_inj, front_eq]
        simp
      exact .inr ⟨String.ofList front, by simp [empty, closed, ← base_eq], .inl base_eq⟩
    · exact .inr ⟨base, by simp [empty, closed], .inr ⟨rfl, empty⟩⟩

theorem join_ne_empty {piece : String} (base : String) (named : piece ≠ "") :
    join base piece ≠ "" := by
  rw [join]
  split_ifs <;> simp [named]

theorem pieces_join {piece : String} (base : String) (simple : '/' ∉ piece.toList) :
    ∃ before, pieces (join base piece) = before ++ [piece] := by
  rcases join_eq_append base simple with ⟨-, join_eq⟩ | ⟨front, join_eq, -⟩
  · exact ⟨[], by rw [join_eq, pieces_of_not_mem simple, List.nil_append]⟩
  · exact ⟨pieces front, by rw [join_eq, pieces_append, pieces_of_not_mem simple]⟩

/-- A base leads on by the piece that follows it, wherever the base is separated from it. -/
theorem filter_pieces_join {piece : String} (base : String) (simple : '/' ∉ piece.toList)
    (named : piece ≠ "") :
    (pieces (join base piece)).filter (· ≠ "") = (pieces base).filter (· ≠ "") ++ [piece] := by
  have filter_eq : [piece].filter (· ≠ "") = [piece] := by simp [named]
  rcases join_eq_append base simple with ⟨rfl, join_eq⟩ | ⟨front, join_eq, base_eq | ⟨rfl, -⟩⟩
  · rw [join_eq, pieces_of_not_mem simple, filter_eq]
    rfl
  · have closed_eq : pieces base = pieces front ++ [""] := by
      rw [base_eq, ← String.append_empty (s := front ++ "/"), pieces_append]
      rfl
    rw [join_eq, pieces_append, pieces_of_not_mem simple, List.filter_append, filter_eq, closed_eq,
      List.filter_append, List.append_assoc]
    rfl
  · rw [join_eq, pieces_append, pieces_of_not_mem simple, List.filter_append, filter_eq]

theorem isAbsolute_append {front : String} (nonempty : front ≠ "") (back : String) :
    isAbsolute (front ++ back) = isAbsolute front := by
  have some_chars : front.toList ≠ [] := fun none => nonempty (String.toList_eq_nil_iff.mp none)
  rw [isAbsolute, isAbsolute, String.toList_append, List.head?_append_of_ne_nil _ some_chars]

/-- A base starts where it starts, whatever follows it. -/
theorem isAbsolute_join {piece : String} (base : String) (simple : '/' ∉ piece.toList) :
    isAbsolute (join base piece) = isAbsolute base := by
  rcases join_eq_append base simple with ⟨rfl, join_eq⟩ | ⟨front, join_eq, rfl | ⟨rfl, nonempty⟩⟩
  · rw [join_eq, isAbsolute_of_not_mem simple]
    rfl
  · rw [join_eq, isAbsolute_append (by simp)]
  · rw [join_eq, String.append_assoc, isAbsolute_append nonempty]

/-- A path starts at the root when a separator comes before everything else. -/
theorem isAbsolute_iff {path : String} :
    isAbsolute path = true ↔ ∃ second rest, pieces path = "" :: second :: rest := by
  rw [isAbsolute, pieces]
  cases chars_eq : path.toList with
  | nil => simp [Text.segments]
  | cons c rest =>
      have nonempty := Text.segments_ne_nil '/' rest
      obtain ⟨first, more, segments_eq⟩ := List.exists_cons_of_ne_nil nonempty
      by_cases separated : c = '/'
      · simp [Text.segments, separated, segments_eq]
      · simp [Text.segments, separated, segments_eq]

/-- A path that ends with a name takes another piece after a separator. -/
theorem join_join {name file : String} (base : String) (named : name ≠ "")
    (simple : '/' ∉ name.toList) (file_simple : '/' ∉ file.toList) :
    join (join base name) file = join base name ++ "/" ++ file := by
  have some_chars : name.toList ≠ [] := fun empty => named (String.toList_eq_nil_iff.mp empty)
  have last_eq : (join base name).toList.getLast? = name.toList.getLast? := by
    rcases join_eq_append base simple with ⟨-, join_eq⟩ | ⟨front, join_eq, -⟩
    · rw [join_eq]
    · rw [join_eq, String.toList_append, List.getLast?_append,
        Option.or_of_isSome (List.getLast?_isSome.mpr some_chars)]
  have nonempty : join base name ≠ "" := fun empty => by
    rw [empty] at last_eq
    exact some_chars (List.getLast?_eq_none_iff.mp last_eq.symm)
  have not_closed : (join base name).toList.getLast? ≠ some '/' := by
    rw [last_eq]
    exact fun closed => simple (List.mem_of_getLast? closed)
  rw [join, isAbsolute_of_not_mem file_simple]
  simp [nonempty, not_closed]

theorem join_injective {base file other : String} (relative : isAbsolute file = false)
    (other_relative : isAbsolute other = false) (same : join base file = join base other) :
    file = other := by
  simp only [join, relative, other_relative, Bool.false_eq_true, if_false] at same
  split at same
  · exact same
  · split at same
    · exact String.append_right_inj _ |>.mp same
    · exact String.append_right_inj _ |>.mp same

section Parents

variable {first parent : String}

/-- A parent is spelled by the first piece and some of those after it, the last of which names
something. -/
theorem exists_of_mem_parentsOfPieces {before : List String}
    (mem : parent ∈ parentsOfPieces first before) :
    ∃ front, front <+: before.reverse ∧ (∀ last ∈ front.getLast?, isInert last = false) ∧
      parent = ofPieces first front := by
  induction before with
  | nil => cases mem
  | cons piece before ih =>
      have shorter : before.reverse <+: (piece :: before).reverse := by
        rw [List.reverse_cons]
        exact List.prefix_append _ _
      have here_or_later : parent = ofPieces first (before.dropWhile isInert).reverse ∨
          parent ∈ parentsOfPieces first before := by
        rw [parentsOfPieces] at mem
        split at mem
        · exact .inr mem
        · exact List.mem_cons.mp mem
      rcases here_or_later with here | later
      · refine ⟨_, ?_, ?_, here⟩
        · exact (List.reverse_prefix.mpr (List.dropWhile_suffix isInert)).trans shorter
        · intro last ends
          rw [List.getLast?_reverse] at ends
          have named := List.head?_dropWhile_not isInert before
          rw [ends] at named
          exact named
      · obtain ⟨front, front_prefix, named, parent_eq⟩ := ih later
        exact ⟨front, front_prefix.trans shorter, named, parent_eq⟩

theorem pieces_ofPieces {rest : List String} (simple : ∀ piece ∈ first :: rest, '/' ∉ piece.toList)
    (not_root : ¬(first = "" ∧ rest = [])) : pieces (ofPieces first rest) = first :: rest := by
  have simple_chars : ∀ chars ∈ (first :: rest).map String.toList, '/' ∉ chars := by
    intro chars mem
    obtain ⟨piece, piece_mem, rfl⟩ := List.mem_map.mp mem
    exact simple piece piece_mem
  rw [ofPieces, if_neg not_root, pieces, Text.segments_eq_splitOn, String.toList_intercalate]
  rw [show "/".toList = ['/'] from rfl, List.splitOn_intercalate '/' simple_chars (by simp)]
  simp [Function.comp_def]

theorem simple_of_mem_pieces {path piece : String} (mem : piece ∈ pieces path) :
    '/' ∉ piece.toList := by
  obtain ⟨segment, segment_mem, rfl⟩ := List.mem_map.mp mem
  rw [String.toList_ofList]
  exact Text.not_mem_of_mem_segments segment_mem

/-- A parent of a path is spelled by its first pieces, but for the root of a path that starts there,
and it starts where the path starts. -/
theorem exists_of_mem_parents {path : String} (mem : parent ∈ parents path) :
    isAbsolute parent = isAbsolute path ∧
      (parent = "/" ∨ pieces parent <+: pieces path ∧ (pieces parent).getLast? ≠ some "") := by
  rw [parents] at mem
  split at mem
  · cases mem
  next first rest pieces_eq =>
    have nonempty : rest ≠ [] := by
      rintro rfl
      cases mem
    obtain ⟨second, more, rfl⟩ := List.exists_cons_of_ne_nil nonempty
    obtain ⟨front, front_prefix, named, rfl⟩ := exists_of_mem_parentsOfPieces mem
    rw [List.reverse_reverse] at front_prefix
    have absolute_iff : isAbsolute path = true ↔ first = "" := by
      simp [isAbsolute_iff, pieces_eq]
    by_cases root : first = "" ∧ front = []
    · rw [ofPieces, if_pos root, absolute_iff.mpr root.1]
      exact ⟨rfl, .inl rfl⟩
    · have shorter : first :: front <+: first :: second :: more :=
        List.prefix_cons_inj first |>.mpr front_prefix
      have simple : ∀ piece ∈ first :: front, '/' ∉ piece.toList := fun piece piece_mem =>
        simple_of_mem_pieces (pieces_eq ▸ shorter.subset piece_mem)
      have parent_eq := pieces_ofPieces simple root
      refine ⟨?_, .inr ⟨?_, ?_⟩⟩
      · rw [Bool.eq_iff_iff, absolute_iff, isAbsolute_iff, parent_eq]
        cases front with
        | nil => simp_all
        | cons => simp
      · rw [parent_eq, pieces_eq]
        exact shorter
      · rw [parent_eq]
        cases front with
        | nil => simpa using root
        | cons head tail =>
            intro ends
            rw [List.getLast?_cons_cons] at ends
            cases named "" ends

end Parents

/-- The directory of a file is named by the last but one piece. -/
theorem directoryName?_join_join {name file : String} (base : String) (named : name ≠ "")
    (simple : '/' ∉ name.toList) (file_simple : '/' ∉ file.toList)
    (names_entry : pieceComponent? name = some (.entry name))
    (names_file : pieceComponent? file = some (.entry file)) :
    directoryName? (join (join base name) file) = some name := by
  obtain ⟨before, pieces_eq⟩ := pieces_join base simple
  have components_eq : ∃ start, components (join (join base name) file) =
      start ++ [.entry name] ++ [.entry file] := by
    rw [components, join_join base named simple file_simple, pieces_append, pieces_eq,
      pieces_of_not_mem file_simple, List.filterMap_append, List.filterMap_append]
    simp only [List.filterMap_cons, List.filterMap_nil, names_entry, names_file,
      ← List.append_assoc]
    exact ⟨_, rfl⟩
  obtain ⟨start, components_eq⟩ := components_eq
  rw [directoryName?, components_eq]
  simp [parentComponents?, lastName?]

end Path
end LambdaStack
