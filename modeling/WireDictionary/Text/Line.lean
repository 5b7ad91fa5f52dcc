/-! Cutting a sequence into lines. `pieces` keeps the line feeds and serves bytes as well as
characters: the bytes of a file are cut before they are decoded. `lines` also drops the break that
ends each line of a text. -/

namespace WireDictionary.Text

variable {α : Type} [DecidableEq α]

/-- The pieces of a sequence that continues a piece whose items, last first, are `begun`. -/
def piecesFrom (feed : α) (begun : List α) : List α → List (List α)
  | [] => if begun.isEmpty then [] else [begun.reverse]
  | a :: rest =>
    if a = feed then (a :: begun).reverse :: piecesFrom feed [] rest
    else piecesFrom feed (a :: begun) rest

/-- The pieces of a sequence, each up to and including a `feed`. Only the last may lack one, and
none is empty. -/
def pieces (feed : α) (s : List α) : List (List α) := piecesFrom feed [] s

theorem piecesFrom_append_feed {feed : α} {body : List α} (h : feed ∉ body) (begun rest : List α) :
    piecesFrom feed begun (body ++ feed :: rest) =
      (begun.reverse ++ body ++ [feed]) :: piecesFrom feed [] rest := by
  induction body generalizing begun with
  | nil => simp [piecesFrom]
  | cons a body ih =>
    rw [List.mem_cons, not_or] at h
    rw [List.cons_append, piecesFrom, if_neg (Ne.symm h.1), ih h.2]
    simp

/-- The first piece ends at the first `feed`. -/
theorem pieces_append_feed {feed : α} {body : List α} (h : feed ∉ body) (rest : List α) :
    pieces feed (body ++ feed :: rest) = (body ++ [feed]) :: pieces feed rest :=
  piecesFrom_append_feed h [] rest

theorem piecesFrom_of_not_mem {feed : α} {s : List α} (h : feed ∉ s) (begun : List α) :
    piecesFrom feed begun s =
      if (begun.reverse ++ s).isEmpty then [] else [begun.reverse ++ s] := by
  induction s generalizing begun with
  | nil => simp [piecesFrom]
  | cons a s ih =>
    rw [List.mem_cons, not_or] at h
    rw [piecesFrom, if_neg (Ne.symm h.1), ih h.2]
    simp

theorem pieces_of_not_mem {feed : α} {s : List α} (h : feed ∉ s) :
    pieces feed s = if s.isEmpty then [] else [s] :=
  piecesFrom_of_not_mem h []

/-- A piece ends at its first `feed`, if it has one. -/
theorem shape_of_mem_piecesFrom {feed : α} {begun s p : List α} (hb : feed ∉ begun)
    (h : p ∈ piecesFrom feed begun s) :
    ∃ body, feed ∉ body ∧ (p = body ++ [feed] ∨ p = body ∧ body ≠ []) := by
  induction s generalizing begun with
  | nil =>
    simp only [piecesFrom] at h
    split at h
    · simp at h
    · rename_i hne
      refine ⟨begun.reverse, by simpa using hb, .inr ⟨List.mem_singleton.mp h, ?_⟩⟩
      simpa using hne
  | cons a rest ih =>
    simp only [piecesFrom] at h
    split at h
    · rename_i ha
      rcases List.mem_cons.mp h with rfl | h
      · exact ⟨begun.reverse, by simpa using hb, .inl (by simp [ha])⟩
      · exact ih (by simp) h
    · rename_i ha
      refine ih ?_ h
      rw [List.mem_cons, not_or]
      exact ⟨fun he => ha he.symm, hb⟩

theorem shape_of_mem_pieces {feed : α} {s p : List α} (h : p ∈ pieces feed s) :
    ∃ body, feed ∉ body ∧ (p = body ++ [feed] ∨ p = body ∧ body ≠ []) :=
  shape_of_mem_piecesFrom (by simp) h

/-- A piece without the line feed at its end, or without the carriage return and line feed there.
A carriage return that no line feed follows belongs to the line. -/
def dropBreak (piece : List Char) : List Char :=
  match piece.reverse with
  | '\n' :: '\r' :: rest => rest.reverse
  | '\n' :: rest => rest.reverse
  | _ => piece

/-- The lines of a text, without their breaks. -/
def lines (text : List Char) : List (List Char) := (pieces '\n' text).map dropBreak

def linesOf (text : String) : List String := (lines text.toList).map String.ofList

theorem dropBreak_concat_feed {body : List Char} (h : body.getLast? ≠ some '\r') :
    dropBreak (body ++ ['\n']) = body := by
  rw [dropBreak, List.reverse_concat]
  split
  · rename_i rest he
    rw [← List.head?_reverse, (List.cons.inj he).2] at h
    exact absurd rfl h
  · rename_i rest _ he
    rw [← (List.cons.inj he).2, List.reverse_reverse]
  · rename_i hne
    exact absurd rfl (hne _)

/-- Lines that are written with a line feed behind each are the lines of the text. -/
theorem linesOf_join {lines : List String}
    (h : ∀ line ∈ lines, '\n' ∉ line.toList ∧ line.toList.getLast? ≠ some '\r') :
    linesOf (String.join (lines.map (· ++ "\n"))) = lines := by
  induction lines with
  | nil => rfl
  | cons line rest ih =>
    obtain ⟨⟨hfeed, hreturn⟩, hrest⟩ := List.forall_mem_cons.mp h
    have htext : (String.join ((line :: rest).map (· ++ "\n"))).toList =
        line.toList ++ '\n' :: (String.join (rest.map (· ++ "\n"))).toList := by
      rw [List.map_cons, String.join_cons, String.toList_append, String.toList_append,
        List.append_assoc]
      rfl
    have ih' := ih hrest
    rw [linesOf, Text.lines] at ih' ⊢
    rw [htext, pieces_append_feed hfeed, List.map_cons, List.map_cons,
      dropBreak_concat_feed hreturn, String.ofList_toList, ih']

theorem dropBreak_subset {body : List Char} (h : '\n' ∉ body) {piece : List Char}
    (hp : piece = body ++ ['\n'] ∨ piece = body) : ∀ c ∈ dropBreak piece, c ∈ body := by
  rcases hp with rfl | rfl
  · intro c hc
    simp only [dropBreak, List.reverse_append, List.reverse_cons, List.reverse_nil, List.nil_append,
      List.cons_append] at hc
    split at hc
    · rename_i rest he
      have hr : body.reverse = '\r' :: rest := by simpa using he
      have hc' : c ∈ body.reverse := by rw [hr]; exact List.mem_cons_of_mem _ (by simpa using hc)
      simpa using hc'
    · rename_i rest _ he
      have hr : body.reverse = rest := by simpa using he
      rw [← hr, List.reverse_reverse] at hc
      exact hc
    · rename_i _ hn
      exact absurd rfl (hn body.reverse)
  · intro c hc
    simp only [dropBreak] at hc
    split at hc
    · rename_i rest he
      exact absurd (List.mem_reverse.mp (he ▸ List.mem_cons_self)) h
    · rename_i rest _ he
      exact absurd (List.mem_reverse.mp (he ▸ List.mem_cons_self)) h
    · exact hc

/-- No line of a text holds a line feed. -/
theorem not_mem_of_mem_lines {text line : List Char} (h : line ∈ lines text) : '\n' ∉ line := by
  obtain ⟨piece, hp, rfl⟩ := List.mem_map.mp h
  obtain ⟨body, hb, hs⟩ := shape_of_mem_pieces hp
  intro hc
  exact hb (dropBreak_subset hb (hs.imp_right And.left) _ hc)

end WireDictionary.Text
