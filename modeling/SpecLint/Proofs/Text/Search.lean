import SpecLint.Text.Search

/-!
Occurrences in texts. Cutting a text at a pattern finds the first occurrence whenever there is one
(`cut_eq_some_iff`, `occurs_iff`), so that what is asked of a text by searching is asked of how it
can be put together. Pieces between separators are told by the separators alone.
-/

namespace SpecLint.Text

/-! ### First occurrences -/

/-- The pattern stands in the text between what is before and what is after it, and nowhere
earlier. -/
structure IsFirst (pattern text before after : List Char) : Prop where
  eq : text = before ++ pattern ++ after
  le : ∀ earlier later, text = earlier ++ pattern ++ later → before.length ≤ earlier.length

variable {pattern text before after : List Char}

theorem IsFirst.unique {before' after' : List Char} (h : IsFirst pattern text before after)
    (h' : IsFirst pattern text before' after') : before = before' ∧ after = after' := by
  have hlength : before.length = before'.length :=
    Nat.le_antisymm (h.le _ _ h'.eq) (h'.le _ _ h.eq)
  have heq := h.eq.symm.trans h'.eq
  rw [List.append_assoc, List.append_assoc] at heq
  obtain ⟨hbefore, hrest⟩ := List.append_inj heq hlength
  exact ⟨hbefore, List.append_cancel_left hrest⟩

/-- What follows any occurrence is the end of what follows the first one. -/
theorem IsFirst.suffix (h : IsFirst pattern text before after) {earlier later : List Char}
    (heq : text = earlier ++ pattern ++ later) : later <:+ after := by
  have hle := h.le earlier later heq
  have hlength := congrArg List.length (h.eq.symm.trans heq)
  simp only [List.length_append] at hlength
  exact List.suffix_of_suffix_length_le ⟨earlier ++ pattern, heq.symm⟩
    ⟨before ++ pattern, h.eq.symm⟩ (by omega)

/-- What stands behind the first occurrence is of no account. -/
theorem IsFirst.replace_after (h : IsFirst pattern text before after) (after' : List Char) :
    IsFirst pattern (before ++ pattern ++ after') before after' := by
  refine ⟨rfl, fun earlier later heq => Nat.le_of_not_lt fun hlt => ?_⟩
  have hprefix : earlier ++ pattern <+: before ++ pattern := by
    refine List.prefix_of_prefix_length_le ⟨later, heq.symm⟩ ⟨after', rfl⟩ ?_
    simp only [List.length_append]
    omega
  obtain ⟨gap, hgap⟩ := hprefix
  have hle := h.le earlier (gap ++ after) (by rw [h.eq, ← hgap, List.append_assoc])
  omega

/-- Nothing is found in a text that lacks the first character of the pattern. -/
theorem isFirst_of_head_notMem {c : Char} {tail : List Char} (h : c ∉ before) :
    IsFirst (c :: tail) (before ++ (c :: tail) ++ after) before after := by
  refine ⟨rfl, fun earlier later heq => Nat.le_of_not_lt fun hlt => h ?_⟩
  have hfound : (before ++ (c :: tail) ++ after)[earlier.length]? = some c := by
    rw [heq, List.append_assoc, List.getElem?_append_right (Nat.le_refl _), Nat.sub_self]
    rfl
  rw [List.append_assoc, List.getElem?_append_left hlt] at hfound
  exact List.mem_of_getElem? hfound

/-- Where the last character of a pattern stands nowhere else in it, an occurrence is the first one
if there is none in front of it. -/
theorem isFirst_iff_not_infix (front : List Char) (last : Char) (hlast : last ∉ front) :
    IsFirst (front ++ [last]) (before ++ (front ++ [last]) ++ after) before after ↔
      ¬(front ++ [last]) <:+: before := by
  constructor
  · rintro h ⟨earlier, later, rfl⟩
    have hle := h.le earlier (later ++ (front ++ [last]) ++ after) (by
      simp only [List.append_assoc])
    simp only [List.length_append, List.length_singleton] at hle
    omega
  · intro h
    refine ⟨rfl, fun earlier later heq => Nat.le_of_not_lt fun hlt => ?_⟩
    have hfound : (before ++ (front ++ [last]) ++ after)[earlier.length + front.length]? =
        some last := by
      rw [heq, List.append_assoc, List.getElem?_append_right (Nat.le_add_right _ _),
        Nat.add_sub_cancel_left, List.append_assoc, List.getElem?_append_right (Nat.le_refl _),
        Nat.sub_self]
      rfl
    -- This place is in front of the occurrence at hand, for otherwise it would be in `front`.
    have hplace : earlier.length + front.length < before.length := by
      refine Nat.lt_of_not_le fun hge => hlast ?_
      rw [List.append_assoc, List.getElem?_append_right hge, List.append_assoc,
        List.getElem?_append_left (by omega)] at hfound
      exact List.mem_of_getElem? hfound
    have hprefix : earlier ++ (front ++ [last]) <+: before := by
      refine List.prefix_of_prefix_length_le ⟨later, heq.symm⟩
        ⟨front ++ [last] ++ after, (List.append_assoc _ _ _).symm⟩ ?_
      simp only [List.length_append, List.length_singleton]
      omega
    exact h (List.IsInfix.trans ⟨earlier, [], List.append_nil _⟩ hprefix.isInfix)

theorem isFirst_of_cut (h : cut pattern text = some (before, after)) :
    IsFirst pattern text before after := by
  refine ⟨cut_eq h, ?_⟩
  induction text generalizing before with
  | nil =>
      obtain ⟨_, -, hbefore⟩ := Option.map_eq_some_iff.1 h
      obtain ⟨rfl, -⟩ := Prod.mk.inj hbefore
      intro earlier later _
      exact Nat.zero_le _
  | cons c text ih =>
      intro earlier later heq
      rw [cut] at h
      split at h
      · obtain ⟨rfl, -⟩ := Prod.mk.inj (Option.some.inj h)
        exact Nat.zero_le _
      · rename_i hstart
        obtain ⟨⟨front, _⟩, hcut, hbefore⟩ := Option.map_eq_some_iff.1 h
        obtain ⟨rfl, rfl⟩ := Prod.mk.inj hbefore
        cases earlier with
        | nil =>
            rw [List.nil_append] at heq
            rw [afterStart_eq_some_iff.2 heq] at hstart
            cases hstart
        | cons d earlier =>
            have hrest := ih hcut earlier later (List.cons.inj heq).2
            exact Nat.succ_le_succ hrest

theorem exists_cut_of_infix (h : pattern <:+: text) :
    ∃ before after, cut pattern text = some (before, after) := by
  obtain ⟨front, rest, rfl⟩ := h
  rw [List.append_assoc]
  induction front with
  | nil =>
      have hstart : afterStart pattern (pattern ++ rest) = some rest :=
        afterStart_eq_some_iff.2 rfl
      rw [List.nil_append]
      cases htext : pattern ++ rest with
      | nil => exact ⟨[], rest, by rw [cut, ← htext, hstart]; rfl⟩
      | cons c text => exact ⟨[], rest, by rw [cut, ← htext, hstart]⟩
  | cons c front ih =>
      obtain ⟨before, after, hcut⟩ := ih
      rw [List.cons_append, cut]
      split
      · exact ⟨_, _, rfl⟩
      · exact ⟨c :: before, after, by rw [hcut]; rfl⟩

/-- A text is cut at the first occurrence of the pattern. -/
theorem cut_eq_some_iff :
    cut pattern text = some (before, after) ↔ IsFirst pattern text before after := by
  refine ⟨isFirst_of_cut, fun h => ?_⟩
  obtain ⟨front, rest, hcut⟩ := exists_cut_of_infix ⟨before, after, h.eq.symm⟩
  obtain ⟨rfl, rfl⟩ := h.unique (isFirst_of_cut hcut)
  exact hcut

theorem occurs_iff : occurs pattern text = true ↔ pattern <:+: text := by
  rw [occurs, Option.isSome_iff_exists]
  constructor
  · rintro ⟨⟨before, after⟩, hcut⟩
    exact ⟨before, after, (cut_eq hcut).symm⟩
  · intro h
    obtain ⟨before, after, hcut⟩ := exists_cut_of_infix h
    exact ⟨_, hcut⟩

theorem cut_eq_none_iff : cut pattern text = none ↔ ¬pattern <:+: text := by
  rw [← occurs_iff, occurs]
  cases cut pattern text <;> simp

theorem contains_iff {part text : String} :
    contains part text = true ↔ part.toList <:+: text.toList :=
  occurs_iff

theorem startsWith_iff {start text : String} :
    startsWith start text = true ↔ start.toList <+: text.toList := by
  rw [startsWith, Option.isSome_iff_exists]
  exact exists_congr fun rest => afterStart_eq_some_iff.trans eq_comm

/-! ### Occurrences in texts that are put together -/

/-- An occurrence is not across a character that is not in the pattern. -/
theorem infix_append_cons_iff {xs ys : List Char} {c : Char} (hc : c ∉ pattern) :
    pattern <:+: xs ++ c :: ys ↔ pattern <:+: xs ∨ pattern <:+: ys := by
  constructor
  · rintro ⟨front, rest, heq⟩
    rcases List.append_eq_append_iff.1 heq with ⟨gap, hxs, -⟩ | ⟨gap, hfront, hgap⟩
    · exact .inl ⟨front, gap, hxs.symm⟩
    · cases gap with
      | nil => exact .inl ⟨front, [], by rw [hfront, List.append_nil, List.append_nil]⟩
      | cons d gap =>
          obtain ⟨rfl, rfl⟩ := List.cons.inj hgap
          rcases List.append_eq_append_iff.1 hfront with ⟨gap', -, hpattern⟩ | ⟨gap', -, hpattern⟩
          · exact absurd (hpattern ▸ by simp) hc
          · cases gap' with
            | nil => exact absurd (List.nil_append pattern ▸ hpattern ▸ List.mem_cons_self) hc
            | cons e gap' =>
                obtain ⟨rfl, rfl⟩ := List.cons.inj hpattern
                exact .inr ⟨gap', rest, rfl⟩
  · rintro (h | h)
    · exact h.trans (List.prefix_append _ _).isInfix
    · exact h.trans ⟨xs ++ [c], [], by simp⟩

theorem infix_append_iff_of_apart {block ys : List Char} (hapart : ∀ c ∈ block, c ∉ pattern) :
    pattern <:+: block ++ ys ↔ pattern <:+: ys := by
  induction block with
  | nil => rfl
  | cons c block ih =>
      obtain ⟨hc, hblock⟩ := List.forall_mem_cons.1 hapart
      rw [← ih hblock, ← List.nil_append (c :: block ++ ys), List.cons_append,
        infix_append_cons_iff hc, or_iff_right_iff_imp]
      exact fun h => h.trans (List.nil_infix)

/-- An occurrence is not across a text that shares no character with the pattern. -/
theorem infix_append_append_iff {xs block ys : List Char} (hblock : block ≠ [])
    (hapart : ∀ c ∈ block, c ∉ pattern) :
    pattern <:+: xs ++ block ++ ys ↔ pattern <:+: xs ∨ pattern <:+: ys := by
  obtain ⟨c, block, rfl⟩ := List.exists_cons_of_ne_nil hblock
  obtain ⟨hc, hrest⟩ := List.forall_mem_cons.1 hapart
  rw [List.append_assoc, List.cons_append, infix_append_cons_iff hc,
    infix_append_iff_of_apart hrest]

/-! ### Pieces between separators -/

theorem splitAt_ne_nil (separator : Char) (cs : List Char) : splitAt separator cs ≠ [] := by
  cases cs with
  | nil => simp [splitAt]
  | cons c rest =>
      rw [splitAt]
      split
      · simp
      · split <;> simp

theorem splitAt_append_separator (separator : Char) (cs ds : List Char) :
    splitAt separator (cs ++ separator :: ds) = splitAt separator cs ++ splitAt separator ds := by
  induction cs with
  | nil => simp [splitAt]
  | cons c cs ih =>
      by_cases h : c = separator
      · simp [splitAt, h, ih]
      · have hne := splitAt_ne_nil separator cs
        cases hcs : splitAt separator cs with
        | nil => exact absurd hcs hne
        | cons piece more =>
            rw [hcs] at ih
            simp [splitAt, h, ih, hcs]

theorem splitAt_of_notMem {separator : Char} {cs : List Char} (h : separator ∉ cs) :
    splitAt separator cs = [cs] := by
  induction cs with
  | nil => rfl
  | cons c cs ih =>
      obtain ⟨hc, hcs⟩ := List.ne_and_not_mem_of_not_mem_cons h
      rw [splitAt, if_neg (Ne.symm hc), ih hcs]

end SpecLint.Text
