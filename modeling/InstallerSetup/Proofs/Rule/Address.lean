import InstallerSetup.Proofs.Rule.Basic

/-!
# Addresses of hosts

An address is looked at twice, as a whole by its pattern and by its pieces between points, which
have to be numerals for at most 255. The pieces are the groups that the pattern finds
(`describes_quadPattern_iff`), and of a group of digits only the value counts (`isOctet_iff`), so a
text of the right form is refused only for its values (`ip_by_groups`).
-/

namespace InstallerSetup.Rule

open Text (Pattern)
open Text.Pattern (Describes)

structure IsGroup (cs : List Char) : Prop where
  filled : 1 ≤ cs.length
  short : cs.length ≤ 3
  digits : ∀ c ∈ cs, c.isDigit = true

structure IsQuad (groups : List (List Char)) : Prop where
  four : groups.length = 4
  group : ∀ cs ∈ groups, IsGroup cs

theorem IsGroup.not_mem_point {cs : List Char} (group : IsGroup cs) : '.' ∉ cs := by
  intro point
  exact absurd (group.digits '.' point) (by decide)

/-- Optional characters of a class, one after the other, are texts over it up to a length. -/
theorem describes_optionals_iff {p : Char → Bool} {count : Nat} {cs : List Char} :
    Describes (sequence (List.replicate count (.optional (.one p)))) cs ↔
      cs.length ≤ count ∧ ∀ c ∈ cs, p c = true := by
  induction count generalizing cs with
  | zero =>
      rw [List.replicate_zero, sequence, Pattern.describes_done_iff, Nat.le_zero,
        List.length_eq_zero_iff]
      constructor
      · rintro rfl
        exact ⟨rfl, List.forall_mem_nil _⟩
      · exact And.left
  | succ count ih =>
      rw [List.replicate_succ, describes_sequence_cons_iff]
      constructor
      · rintro ⟨front, back, rfl, first, rest⟩
        obtain ⟨short, later⟩ := ih.1 rest
        rcases Pattern.describes_optional_iff.1 first with one | rfl
        · obtain ⟨c, rfl, inClass⟩ := Pattern.describes_one_iff.1 one
          exact ⟨Nat.succ_le_succ short, List.forall_mem_cons.2 ⟨inClass, later⟩⟩
        · exact ⟨Nat.le_succ_of_le short, later⟩
      · rintro ⟨short, inClass⟩
        cases cs with
        | nil =>
            have none : Describes (.optional (.one p)) [] :=
              Pattern.describes_optional_iff.2 (.inr rfl)
            exact ⟨[], [], rfl, none, ih.2 ⟨Nat.zero_le _, inClass⟩⟩
        | cons c rest =>
            obtain ⟨first, later⟩ := List.forall_mem_cons.1 inClass
            have one : Describes (.optional (.one p)) [c] :=
              Pattern.describes_optional_iff.2 (.inl (.one first))
            exact ⟨[c], rest, rfl, one, ih.2 ⟨Nat.le_of_succ_le_succ short, later⟩⟩

theorem describes_octetPattern_iff {cs : List Char} : Describes octetPattern cs ↔ IsGroup cs := by
  have optionals : octetPattern =
      sequence (.one isDigit :: List.replicate 2 (.optional (.one isDigit))) := rfl
  rw [optionals, describes_sequence_cons_iff]
  constructor
  · rintro ⟨_, rest, rfl, one, restOf⟩
    obtain ⟨c, rfl, digit⟩ := Pattern.describes_one_iff.1 one
    obtain ⟨short, digits⟩ := describes_optionals_iff.1 restOf
    exact ⟨Nat.le_add_left 1 _, Nat.succ_le_succ short, List.forall_mem_cons.2 ⟨digit, digits⟩⟩
  · rintro ⟨filled, short, digits⟩
    obtain ⟨c, rest, rfl⟩ := List.exists_cons_of_length_pos filled
    obtain ⟨digit, later⟩ := List.forall_mem_cons.1 digits
    exact ⟨[c], rest, rfl, .one digit,
      describes_optionals_iff.2 ⟨Nat.le_of_succ_le_succ short, later⟩⟩

/-- Groups of digits with points between them, one more than a number of points. -/
def groupPatterns : Nat → List Pattern
  | 0 => [octetPattern]
  | points + 1 => octetPattern :: literal "." :: groupPatterns points

/-- The groups that the patterns find are the pieces between points. -/
theorem describes_groupPatterns_iff {points : Nat} {cs : List Char} :
    Describes (sequence (groupPatterns points)) cs ↔
      (Text.pieces '.' cs).length = points + 1 ∧ ∀ group ∈ Text.pieces '.' cs, IsGroup group := by
  induction points generalizing cs with
  | zero =>
      rw [groupPatterns, sequence, describes_octetPattern_iff]
      constructor
      · intro group
        rw [Text.pieces_of_not_mem group.not_mem_point]
        exact ⟨rfl, List.forall_mem_singleton.2 group⟩
      · rintro ⟨single, groups⟩
        obtain ⟨group, cut⟩ := List.length_eq_one_iff.1 single
        have whole : cs = group := by
          rw [← Text.join_pieces '.' cs, cut, Text.join]
        rw [cut] at groups
        exact whole ▸ List.forall_mem_singleton.1 groups
  | succ points ih =>
      rw [groupPatterns, describes_sequence_cons_iff]
      constructor
      · rintro ⟨first, _, rfl, firstOf, atPoint⟩
        obtain ⟨back, rfl, backOf⟩ := describes_sequence_literal_iff.1 atPoint
        have firstIs : IsGroup first := describes_octetPattern_iff.1 firstOf
        obtain ⟨count, later⟩ := ih.1 backOf
        have cut : Text.pieces '.' (first ++ (".".toList ++ back)) =
            first :: Text.pieces '.' back :=
          Text.pieces_append firstIs.not_mem_point back
        rw [cut]
        exact ⟨congrArg Nat.succ count, List.forall_mem_cons.2 ⟨firstIs, later⟩⟩
      · rintro ⟨count, groups⟩
        -- with a point left there is a second piece, and the pieces from it on are those behind it
        obtain ⟨first, rest, cut⟩ := List.exists_cons_of_length_eq_add_one count
        rw [cut] at count groups
        obtain ⟨second, others, rfl⟩ := List.exists_cons_of_length_eq_add_one (Nat.succ.inj count)
        obtain ⟨firstIs, later⟩ := List.forall_mem_cons.1 groups
        have parts : cs = first ++ (".".toList ++ Text.join '.' (second :: others)) := by
          rw [← Text.join_pieces '.' cs, cut, Text.join]
          · rfl
          · exact List.cons_ne_nil _ _
        have apart : ∀ group ∈ second :: others, '.' ∉ group := fun group member =>
          (later group member).not_mem_point
        have again : Text.pieces '.' (Text.join '.' (second :: others)) = second :: others :=
          Text.pieces_join (List.cons_ne_nil _ _) apart
        refine ⟨first, _, parts, describes_octetPattern_iff.2 firstIs, ?_⟩
        refine describes_sequence_literal_iff.2 ⟨_, rfl, ih.2 ?_⟩
        rw [again]
        exact ⟨Nat.succ.inj count, later⟩

theorem describes_quadPattern_iff {cs : List Char} :
    Describes quadPattern cs ↔ IsQuad (Text.pieces '.' cs) := by
  have grouped : quadPattern = sequence (groupPatterns 3) := rfl
  rw [grouped, describes_groupPatterns_iff]
  exact ⟨fun ⟨four, group⟩ => ⟨four, group⟩, fun ⟨four, group⟩ => ⟨four, group⟩⟩

/-! ## Values -/

theorem ip_of_not_quad {s : String} (different : ¬ IsQuad (Text.pieces '.' s.toList)) :
    ip s = .error .noAddress := by
  rw [ip, matching_of_not_describes (mt describes_quadPattern_iff.1 different)]

/-- Of the groups of an address only the values are left to look at. -/
theorem ip_of_quad {s : String} (quad : IsQuad (Text.pieces '.' s.toList)) :
    ip s = if (Text.pieces '.' s.toList).all isOctet then .ok () else .error .wideOctet := by
  rw [ip, matching_of_describes (describes_quadPattern_iff.2 quad)]

theorem all_isOctet_iff {groups : List (List Char)} (quad : IsQuad groups) :
    groups.all isOctet = true ↔ ∀ group ∈ groups, Nat.ofDigitChars 10 group 0 ≤ 255 := by
  rw [List.all_eq_true]
  exact forall₂_congr fun group member => isOctet_iff (quad.group group member).digits

theorem eksDnsIp_eq_ok_iff {s : String} :
    eksDnsIp s = .ok () ↔ s = "" ∨ IsQuad (Text.pieces '.' s.toList) := by
  rw [eksDnsIp, orEmpty_eq_ok_iff, matching_eq_ok_iff, describes_quadPattern_iff]

/--
An address is accepted exactly if it has four groups of one to three digits between points, none of
them above 255. It is refused for its values if only they are wrong, and for its form otherwise. The
address of a name server may be left out and is free in its values, so every accepted one will do.
-/
theorem ip_by_groups (s : String) :
    let groups := Text.pieces '.' s.toList
    (ip s = .ok () ↔ IsQuad groups ∧ ∀ group ∈ groups, Nat.ofDigitChars 10 group 0 ≤ 255) ∧
      (ip s = .error .wideOctet ↔
        IsQuad groups ∧ ∃ group ∈ groups, 255 < Nat.ofDigitChars 10 group 0) ∧
      (ip s = .error .noAddress ↔ ¬ IsQuad groups) ∧
      (eksDnsIp s = .ok () ↔ s = "" ∨ IsQuad groups) ∧
      (ip s = .ok () → eksDnsIp s = .ok ()) := by
  intro groups
  rw [eksDnsIp_eq_ok_iff]
  by_cases quad : IsQuad groups
  · by_cases small : ∀ group ∈ groups, Nat.ofDigitChars 10 group 0 ≤ 255
    · have none : ¬ ∃ group ∈ groups, 255 < Nat.ofDigitChars 10 group 0 := by
        rintro ⟨group, member, wide⟩
        exact Nat.not_le.2 wide (small group member)
      rw [ip_of_quad quad, if_pos ((all_isOctet_iff quad).2 small)]
      exact ⟨iff_of_true rfl ⟨quad, small⟩, iff_of_false nofun fun refused => none refused.2,
        iff_of_false nofun (not_not_intro quad), Iff.rfl, fun _ => .inr quad⟩
    · obtain ⟨group, unfit⟩ := Classical.not_forall.1 small
      obtain ⟨member, large⟩ := Classical.not_imp.1 unfit
      have wide : ∃ group ∈ groups, 255 < Nat.ofDigitChars 10 group 0 :=
        ⟨group, member, Nat.lt_of_not_le large⟩
      rw [ip_of_quad quad, if_neg (mt (all_isOctet_iff quad).1 small)]
      exact ⟨iff_of_false nofun fun accepted => small accepted.2, iff_of_true rfl ⟨quad, wide⟩,
        iff_of_false nofun (not_not_intro quad), Iff.rfl, nofun⟩
  · rw [ip_of_not_quad quad]
    exact ⟨iff_of_false nofun fun accepted => quad accepted.1,
      iff_of_false nofun fun refused => quad refused.1, iff_of_true rfl quad, Iff.rfl, nofun⟩

/-- Zeros in front do not count, and any value is free for the address of a name server. -/
example :
    ip "010.000.0.255" = .ok () ∧ ip "999.0.0.1" = .error .wideOctet ∧
      ip "+1.2.3.4" = .error .noAddress ∧ eksDnsIp "999.0.0.1" = .ok () :=
  ⟨rfl, rfl, rfl, rfl⟩

end InstallerSetup.Rule
