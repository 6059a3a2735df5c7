import EntityModel.Text.Ranges

/-!
# Blanks

The characters with the Unicode property `White_Space`, and text with them removed from its ends.
`trim` leaves text that neither starts nor ends with a blank as it is (`trim_eq_self`), so trimming a second
time changes nothing (`trim_trim`).
-/

namespace EntityModel.Text

/-- The characters with the property `White_Space`. -/
def blankRanges : List (Nat × Nat) :=
  [(0x9, 0xd), (0x20, 0x20), (0x85, 0x85), (0xa0, 0xa0), (0x1680, 0x1680), (0x2000, 0x200a),
   (0x2028, 0x2029), (0x202f, 0x202f), (0x205f, 0x205f), (0x3000, 0x3000)]

/-- A blank of any script. -/
def isBlank (c : Char) : Bool := inRanges blankRanges c

/-- Text without the blanks at its start. -/
def trimStart (cs : List Char) : List Char := cs.dropWhile isBlank

/-- Text without the blanks at its end. -/
def trimEnd (cs : List Char) : List Char := (cs.reverse.dropWhile isBlank).reverse

/-- Text without the blanks at its ends. -/
def trim (cs : List Char) : List Char := trimEnd (trimStart cs)

@[simp] theorem trim_nil : trim [] = [] := rfl

theorem trimStart_eq_self {cs : List Char} (h : ∀ c ∈ cs.head?, isBlank c = false) :
    trimStart cs = cs := by
  cases cs with
  | nil => rfl
  | cons c r => simp [trimStart, h c (by simp)]

theorem trimEnd_eq_self {cs : List Char} (h : ∀ c ∈ cs.getLast?, isBlank c = false) :
    trimEnd cs = cs := by
  have h' : trimStart cs.reverse = cs.reverse := trimStart_eq_self (by simpa using h)
  simp only [trimStart] at h'
  simp [trimEnd, h']

theorem trim_eq_self {cs : List Char} (hs : ∀ c ∈ cs.head?, isBlank c = false)
    (he : ∀ c ∈ cs.getLast?, isBlank c = false) : trim cs = cs := by
  rw [trim, trimStart_eq_self hs, trimEnd_eq_self he]

theorem not_isBlank_head_trimStart (cs : List Char) :
    ∀ c ∈ (trimStart cs).head?, isBlank c = false := by
  intro c hc
  have h := List.head?_dropWhile_not isBlank cs
  rw [trimStart] at hc
  simpa [Option.mem_def.1 hc] using h

theorem trimEnd_isPrefix (cs : List Char) : trimEnd cs <+: cs := by
  have h : (cs.reverse.dropWhile isBlank).reverse <+: cs.reverse.reverse :=
    List.reverse_prefix.2 (List.dropWhile_suffix isBlank)
  rwa [List.reverse_reverse] at h

theorem mem_of_mem_trimStart {cs : List Char} {c : Char} (h : c ∈ trimStart cs) : c ∈ cs :=
  (List.dropWhile_suffix isBlank).subset h

theorem mem_of_mem_trim {cs : List Char} {c : Char} (h : c ∈ trim cs) : c ∈ cs := by
  have hsubset : trim cs ⊆ trimStart cs := (trimEnd_isPrefix (trimStart cs)).subset
  exact mem_of_mem_trimStart (hsubset h)

theorem not_isBlank_getLast?_trim (cs : List Char) : ∀ c ∈ (trim cs).getLast?, isBlank c = false := by
  intro c hc
  rw [trim, trimEnd, List.getLast?_reverse] at hc
  exact not_isBlank_head_trimStart (trimStart cs).reverse c hc

/-- Trimmed text has no blanks at its ends. -/
theorem trim_trim (cs : List Char) : trim (trim cs) = trim cs := by
  refine trim_eq_self (fun c hc => ?_) (not_isBlank_getLast?_trim cs)
  obtain ⟨rest, hrest⟩ := trimEnd_isPrefix (trimStart cs)
  refine not_isBlank_head_trimStart cs c ?_
  rw [← hrest, Option.mem_def, List.head?_append, ← trim, Option.mem_def.1 hc, Option.some_or]

theorem mem_trimStart_of_not_isBlank {cs : List Char} {c : Char} (hc : c ∈ cs) (hblank : isBlank c = false) :
    c ∈ trimStart cs := by
  induction cs with
  | nil => exact hc
  | cons d cs ih =>
    rw [trimStart, List.dropWhile_cons]
    split
    · next hd =>
      rcases List.mem_cons.1 hc with rfl | hc
      · rw [hblank] at hd
        cases hd
      · exact ih hc
    · exact hc

/-- Trimming leaves something of a text that has something. -/
theorem trim_ne_nil {cs : List Char} {c : Char} (hc : c ∈ cs) (hblank : isBlank c = false) : trim cs ≠ [] := by
  have hstart : c ∈ (trimStart cs).reverse := List.mem_reverse.2 (mem_trimStart_of_not_isBlank hc hblank)
  exact List.ne_nil_of_mem (List.mem_reverse.2 (mem_trimStart_of_not_isBlank hstart hblank))

/-- Changing characters that stay as blank as they were does not move the ends. -/
theorem trimStart_map {f : Char → Char} {cs : List Char} (h : ∀ c ∈ cs, isBlank (f c) = isBlank c) :
    trimStart (cs.map f) = (trimStart cs).map f := by
  unfold trimStart
  induction cs with
  | nil => rfl
  | cons c cs ih =>
    rw [List.map_cons, List.dropWhile_cons, List.dropWhile_cons, h c List.mem_cons_self]
    split
    · exact ih fun d hd => h d (List.mem_cons_of_mem c hd)
    · rfl

theorem trimEnd_map {f : Char → Char} {cs : List Char} (h : ∀ c ∈ cs, isBlank (f c) = isBlank c) :
    trimEnd (cs.map f) = (trimEnd cs).map f := by
  have hreverse : trimStart (cs.reverse.map f) = (trimStart cs.reverse).map f :=
    trimStart_map fun c hc => h c (List.mem_reverse.1 hc)
  unfold trimEnd
  rw [← List.map_reverse, ← trimStart, hreverse, List.map_reverse, trimStart]

theorem trim_map {f : Char → Char} {cs : List Char} (h : ∀ c ∈ cs, isBlank (f c) = isBlank c) :
    trim (cs.map f) = (trim cs).map f := by
  rw [trim, trimStart_map h, trimEnd_map fun c hc => h c (mem_of_mem_trimStart hc), trim]

/-- Blanks around a text are trimmed away, whatever stands between them. -/
theorem trim_append_blanks {before after : List Char} (core : List Char)
    (hbefore : ∀ c ∈ before, isBlank c = true) (hafter : ∀ c ∈ after, isBlank c = true) :
    trim (before ++ core ++ after) = trim core := by
  have hend (cs : List Char) : trimEnd (cs ++ after) = trimEnd cs := by
    unfold trimEnd
    rw [List.reverse_append, List.dropWhile_append_of_pos fun c hc => hafter c (List.mem_reverse.1 hc)]
  unfold trim trimStart
  rw [List.append_assoc, List.dropWhile_append_of_pos hbefore, List.dropWhile_append]
  split
  · next hcore =>
    have hblank : after.dropWhile isBlank = [] := by
      rw [← List.append_nil after, List.dropWhile_append_of_pos hafter, List.dropWhile_nil]
    rw [hblank, List.isEmpty_iff.1 hcore]
  · exact hend _

/-- Text without blanks in front of text that does not start with one stays as it is. -/
theorem trim_append {front rest : List Char} (hfront : ∀ c ∈ front, isBlank c = false)
    (hrest : ∀ c ∈ rest.head?, isBlank c = false) : trim (front ++ rest) = front ++ trim rest := by
  have hstart : trimStart (front ++ rest) = front ++ rest := by
    refine trimStart_eq_self fun c hc => ?_
    cases front with
    | nil => exact hrest c hc
    | cons d front =>
      obtain rfl : d = c := Option.some.inj hc
      exact hfront d List.mem_cons_self
  have hend : front.reverse.dropWhile isBlank = front.reverse := by
    have h : trimStart front.reverse = front.reverse :=
      trimStart_eq_self fun c hc => hfront c (List.mem_reverse.1 (List.mem_of_mem_head? hc))
    exact h
  rw [trim, hstart, trim, trimStart_eq_self hrest]
  unfold trimEnd
  rw [List.reverse_append, List.dropWhile_append, hend]
  split
  · next hempty => rw [List.isEmpty_iff.1 hempty, List.reverse_reverse, List.reverse_nil, List.append_nil]
  · rw [List.reverse_append, List.reverse_reverse]

end EntityModel.Text
