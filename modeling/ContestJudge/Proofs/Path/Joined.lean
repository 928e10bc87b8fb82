import ContestJudge.Proofs.Path.Within

/-!
# Joining one part

Joining puts a slash before what it adds unless there is one already. Either way the parts of the
path are those that it had and then the new one, up to empty parts, which mean nothing
(`filterMap_splitParts_join`). So whatever reads a path by its parts and skips empty ones reads a
joined path as the two paths one after the other; the steps of a file tree and the names of a path
are both such readings, and both come as one function of parts.
-/

namespace ContestJudge.Path

variable {p : Path} {x : String}

theorem text_ne_empty (h : p.isAbsolute = true) : p.text ≠ "" := by
  intro hempty
  rw [isAbsolute, hempty] at h
  exact absurd h (by decide)

/-- What is joined stands behind a slash. -/
theorem toList_join_relative (hp : p.text ≠ "") (hx : (⟨x⟩ : Path).isAbsolute = false) :
    (p.join ⟨x⟩).text.toList =
      if p.text.toList.getLast? = some '/' then p.text.toList ++ x.toList
      else p.text.toList ++ '/' :: x.toList := by
  rw [join, hx, if_neg Bool.false_ne_true]
  by_cases hend : p.text.toList.getLast? = some '/'
  · rw [if_pos (.inr hend), if_pos hend, String.toList_append]
  · rw [if_neg (not_or.2 ⟨hp, hend⟩), if_neg hend, String.toList_append, String.toList_append,
      List.append_assoc]
    rfl

/-- Joining adds no other character than a slash. -/
theorem mem_join {base child : Path} {c : Char} (h : c ∈ (base.join child).text.toList) :
    c ∈ base.text.toList ∨ c ∈ child.text.toList ∨ c = '/' := by
  unfold join at h
  split at h
  · exact .inr (.inl h)
  · split at h
    · rw [String.toList_append, List.mem_append] at h
      exact h.imp_right .inl
    · rw [String.toList_append, String.toList_append, List.mem_append, List.mem_append] at h
      rcases h with (h | h) | h
      · exact .inl h
      · exact .inr (.inr (List.mem_singleton.1 h))
      · exact .inr (.inl h)

/-- **Joining adds the parts** of what is joined, apart from empty ones. -/
theorem filterMap_splitParts_join_relative {β : Type} {f : List Char → Option β} (hf : f [] = none)
    (hp : p.text ≠ "") (hx : (⟨x⟩ : Path).isAbsolute = false) :
    (splitParts (p.join ⟨x⟩).text.toList).filterMap f =
      (splitParts p.text.toList).filterMap f ++ (splitParts x.toList).filterMap f := by
  rw [toList_join_relative hp hx]
  by_cases hend : p.text.toList.getLast? = some '/'
  · obtain ⟨cs, hcs⟩ := List.getLast?_eq_some_iff.1 hend
    have hempty : (splitParts []).filterMap f = [] := by
      rw [splitParts, List.filterMap_cons, hf, List.filterMap_nil]
    rw [if_pos hend, hcs, List.append_assoc, List.singleton_append, splitParts_append_slash,
      splitParts_append_slash, List.filterMap_append, List.filterMap_append, hempty,
      List.append_nil]
  · rw [if_neg hend, splitParts_append_slash, List.filterMap_append]

/-- **Joining a part adds a part**, apart from empty ones. -/
theorem filterMap_splitParts_join {β : Type} {f : List Char → Option β} (hf : f [] = none)
    (hp : p.text ≠ "") (hx : '/' ∉ x.toList) :
    (splitParts (p.join ⟨x⟩).text.toList).filterMap f =
      (splitParts p.text.toList).filterMap f ++ (f x.toList).toList := by
  have hpart : (splitParts x.toList).filterMap f = (f x.toList).toList := by
    rw [splitParts_of_not_mem hx, List.filterMap_cons, List.filterMap_nil]
    cases f x.toList <;> rfl
  rw [filterMap_splitParts_join_relative hf hp (not_isAbsolute_of_noSlash hx), hpart]

theorem components_of_rooted (hp : p.isAbsolute = true) :
    p.components = .root :: (splitParts p.text.toList).filterMap componentOfPart := by
  obtain ⟨cs, hcs⟩ : ∃ cs, p.text.toList = '/' :: cs :=
    List.head?_eq_some_iff.1 (of_decide_eq_true hp)
  have hparts : splitParts p.text.toList = [] :: splitParts cs := by
    rw [hcs]
    rfl
  rw [components, hparts, hp]
  rfl

theorem fileName?_join_name (hp : p.isAbsolute = true) (hx : IsName x) :
    (p.join ⟨x⟩).fileName? = some x := by
  have hjoin : (p.join ⟨x⟩).isAbsolute = true := by
    rw [isAbsolute_join, hp, Bool.true_or]
  rw [fileName?, components_of_rooted hjoin,
    filterMap_splitParts_join rfl (text_ne_empty hp) hx.noSlash, componentOfPart_name hx,
    Option.toList_some, ← List.cons_append, List.getLast?_concat]

/-- What a path ends in is a name that an entry may have. -/
theorem isName_of_fileName? (h : p.fileName? = some x) : IsName x := by
  unfold fileName? at h
  split at h
  next entry hlast =>
    obtain rfl := Option.some.inj h
    have hmem : Component.name entry ∈ p.components := List.mem_of_getLast? hlast
    cases hrooted : p.isAbsolute with
    | true =>
      rw [components_of_rooted hrooted] at hmem
      obtain ⟨part, hpart, hread⟩ :=
        List.mem_filterMap.1 ((List.mem_cons.1 hmem).resolve_left nofun)
      exact isPlain_of_componentOfPart (not_mem_of_mem_splitParts hpart) hread
    | false => exact (isPlain_of_mem_components hrooted hmem).resolve_left nofun
  · exact nomatch h

theorem utf8ByteSize_join_le (hx : '/' ∉ x.toList) :
    (p.join ⟨x⟩).text.utf8ByteSize ≤ p.text.utf8ByteSize + 1 + x.utf8ByteSize := by
  have hrelative : (⟨x⟩ : Path).isAbsolute = false := not_isAbsolute_of_noSlash hx
  have hslash : "/".utf8ByteSize = 1 := by decide
  rw [join, hrelative, if_neg Bool.false_ne_true]
  split
  · show (p.text ++ x).utf8ByteSize ≤ _
    rw [String.utf8ByteSize_append]
    omega
  · have hsize : (p.text ++ "/" ++ x).utf8ByteSize = p.text.utf8ByteSize + 1 + x.utf8ByteSize := by
      rw [String.utf8ByteSize_append, String.utf8ByteSize_append, hslash]
    exact Nat.le_of_eq hsize

end ContestJudge.Path
