import Mathlib.Data.List.DropRight
import RecordStore.Text.Lowercase

namespace RecordStore.Text

theorem trimEnd_eq_rdropWhile (cs : List Char) :
    trimEnd cs = cs.rdropWhile isBlank := rfl

theorem trimBoth_ends {cs : List Char} (nonempty : trimBoth cs ≠ []) :
    isBlank ((trimBoth cs).head nonempty) = false ∧
      isBlank ((trimBoth cs).getLast nonempty) = false := by
  have initial : trimBoth cs <+: trimStart cs := List.rdropWhile_prefix ..
  constructor
  · rw [initial.head nonempty]
    exact List.head_dropWhile_not isBlank _
  · exact Bool.eq_false_iff.mpr
      (List.rdropWhile_last_not isBlank (trimStart cs) nonempty)

theorem trimBoth_eq_self {cs : List Char}
    (ends : ∀ nonempty : cs ≠ [], isBlank (cs.head nonempty) = false ∧
      isBlank (cs.getLast nonempty) = false) : trimBoth cs = cs := by
  have start : trimStart cs = cs := by
    rw [trimStart, List.dropWhile_eq_self_iff]
    intro positive
    have := (ends (List.ne_nil_of_length_pos positive)).1
    rw [List.head_eq_getElem] at this
    simp [this]
  rw [trimBoth, start, trimEnd_eq_rdropWhile, List.rdropWhile_eq_self_iff]
  intro nonempty
  simp [(ends nonempty).2]

theorem trimBoth_idempotent (cs : List Char) :
    trimBoth (trimBoth cs) = trimBoth cs :=
  trimBoth_eq_self trimBoth_ends

theorem trim_idempotent (s : String) : trim (trim s) = trim s := by
  rw [trim, toList_trim, trimBoth_idempotent, trim]

theorem trim_empty : trim "" = "" := rfl

theorem trimBoth_append {cs ds : List Char} (first : trimBoth cs = cs)
    (second : trimBoth ds = ds) (some : cs ≠ []) (someToo : ds ≠ []) :
    trimBoth (cs ++ ds) = cs ++ ds := by
  have firstSome : trimBoth cs ≠ [] := by rwa [first]
  have secondSome : trimBoth ds ≠ [] := by rwa [second]
  have start := (trimBoth_ends firstSome).1
  have finish := (trimBoth_ends secondSome).2
  simp only [first] at start
  simp only [second] at finish
  refine trimBoth_eq_self fun nonempty => ?_
  rw [List.head_append_of_ne_nil some,
    List.getLast_append_of_ne_nil nonempty someToo]
  exact ⟨start, finish⟩

theorem toNat_of_isDigit {c : Char} (digit : c.isDigit = true) :
    48 ≤ c.toNat ∧ c.toNat ≤ 57 := by
  simp only [Char.isDigit, Bool.and_eq_true, decide_eq_true_eq] at digit
  exact digit

theorem isBlank_of_isDigit {c : Char} (digit : c.isDigit = true) :
    isBlank c = false := by
  have ⟨low, high⟩ := toNat_of_isDigit digit
  simp only [isBlank, inRanges, blankRanges, List.any_cons, List.any_nil,
    Bool.or_false, Bool.or_eq_false_iff, Bool.and_eq_false_imp,
    decide_eq_true_eq, decide_eq_false_iff_not, not_le]
  omega

def Visible (cs : List Char) : Prop :=
  ∀ c ∈ cs, isBlank c = false

@[simp] theorem visible_nil : Visible [] := by
  simp [Visible]

@[simp] theorem visible_cons {c : Char} {cs : List Char} :
    Visible (c :: cs) ↔ isBlank c = false ∧ Visible cs := by
  simp [Visible]

@[simp] theorem visible_append {cs ds : List Char} :
    Visible (cs ++ ds) ↔ Visible cs ∧ Visible ds := by
  simp [Visible, or_imp, forall_and]

theorem Visible.trimBoth_eq {cs : List Char} (visible : Visible cs) :
    trimBoth cs = cs :=
  trimBoth_eq_self fun _ =>
    ⟨visible _ (List.head_mem _), visible _ (List.getLast_mem _)⟩

theorem trimBoth_sublist (cs : List Char) : (trimBoth cs).Sublist cs :=
  (List.rdropWhile_prefix isBlank (trimStart cs)).sublist.trans
    (List.dropWhile_sublist isBlank)

theorem length_trim_le (s : String) :
    (trim s).toList.length ≤ s.toList.length := by
  rw [toList_trim]
  exact (trimBoth_sublist s.toList).length_le

theorem trim_eq_self_iff {s : String} :
    trim s = s ↔ trimBoth s.toList = s.toList := by
  rw [← String.toList_inj, toList_trim]

theorem trim_eq_self_of_le {s : String}
    (whole : s.toList.length ≤ (trim s).toList.length) : trim s = s := by
  rw [toList_trim] at whole
  exact trim_eq_self_iff.mpr ((trimBoth_sublist s.toList).eq_of_length_le whole)

theorem count_dropWhile_isBlank {c : Char} (visible : isBlank c = false)
    (cs : List Char) : (cs.dropWhile isBlank).count c = cs.count c := by
  have gone : (cs.takeWhile isBlank).count c = 0 := by
    refine List.count_eq_zero.mpr fun member => ?_
    rw [List.mem_takeWhile_imp member] at visible
    cases visible
  conv_rhs =>
    rw [← List.takeWhile_append_dropWhile (p := isBlank) (l := cs),
      List.count_append, gone, Nat.zero_add]

theorem count_trimBoth {c : Char} (visible : isBlank c = false)
    (cs : List Char) : (trimBoth cs).count c = cs.count c := by
  rw [trimBoth, trimEnd, List.count_reverse, count_dropWhile_isBlank visible,
    List.count_reverse, trimStart, count_dropWhile_isBlank visible]

def lowerWidth (c : Char) : Nat :=
  if c = 'Σ' then 1 else (lowerChar c).length

theorem lowerWidth_pos (c : Char) : 0 < lowerWidth c := by
  unfold lowerWidth lowerChar
  repeat' split
  all_goals simp

theorem length_lowerAfter_cons (before : List Char) (c : Char)
    (rest : List Char) :
    (lowerAfter before (c :: rest)).length =
      lowerWidth c + (lowerAfter (c :: before) rest).length := by
  rw [lowerAfter, List.length_append, lowerWidth]
  split <;> rfl

theorem length_lowerAfter_of_sublist {cs ds : List Char}
    (sublist : cs.Sublist ds) (before other : List Char) :
    (lowerAfter before cs).length + ds.length ≤
      (lowerAfter other ds).length + cs.length := by
  induction sublist generalizing before other with
  | slnil => simp
  | cons d sublist ih =>
      have width := lowerWidth_pos d
      have rest := ih before (d :: other)
      rw [length_lowerAfter_cons, List.length_cons]
      omega
  | cons_cons c sublist ih =>
      have rest := ih (c :: before) (c :: other)
      rw [length_lowerAfter_cons, length_lowerAfter_cons, List.length_cons,
        List.length_cons]
      omega

theorem lower_trim_eq_iff (s : String) :
    lower s = lower (trim s) ↔ trim s = s := by
  refine ⟨fun same => ?_, fun trimmed => by rw [trimmed]⟩
  have lengths := length_lowerAfter_of_sublist (trimBoth_sublist s.toList) [] []
  rw [lower, lower, toList_trim, String.ofList_inj] at same
  rw [same] at lengths
  refine trim_eq_self_of_le ?_
  rw [toList_trim]
  omega

variable {s t : String}

theorem equalUpToAsciiCase_iff :
    equalUpToAsciiCase s t = true ↔
      s.toList.map Char.toLower = t.toList.map Char.toLower := by
  rw [equalUpToAsciiCase, beq_iff_eq, lowerAscii, lowerAscii, String.ofList_inj]

theorem length_of_equalUpToAsciiCase (same : equalUpToAsciiCase s t = true) :
    s.toList.length = t.toList.length := by
  simpa using congrArg List.length (equalUpToAsciiCase_iff.mp same)

theorem toLower_eq_dot_iff {c : Char} : c.toLower = '.' ↔ c = '.' := by
  by_cases upper : 'A'.val ≤ c.val ∧ c.val ≤ 'Z'.val
  · have lowered : c.toLower.val = c.val + ('a'.val - 'A'.val) :=
      congrArg Char.val (dif_pos upper)
    have least : 65 ≤ c.val.toNat := UInt32.le_iff_toNat_le.mp upper.1
    have greatest : c.val.toNat ≤ 90 := UInt32.le_iff_toNat_le.mp upper.2
    have sign : '.'.val.toNat = 46 := rfl
    have distance : ('a'.val - 'A'.val).toNat = 32 := rfl
    rw [Char.ext_iff, Char.ext_iff, lowered, ← UInt32.toNat_inj,
      ← UInt32.toNat_inj, UInt32.toNat_add]
    omega
  · have kept : c.toLower = c := dif_neg upper
    rw [kept]

theorem count_dot_map_toLower (cs : List Char) :
    (cs.map Char.toLower).count '.' = cs.count '.' := by
  rw [List.count_eq_countP, List.countP_map, List.count_eq_countP]
  exact List.countP_congr fun c _ => by simp [toLower_eq_dot_iff]

theorem count_dot_of_equalUpToAsciiCase (same : equalUpToAsciiCase s t = true) :
    s.toList.count '.' = t.toList.count '.' := by
  rw [← count_dot_map_toLower, equalUpToAsciiCase_iff.mp same,
    count_dot_map_toLower]

end RecordStore.Text
