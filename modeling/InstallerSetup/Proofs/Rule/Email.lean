import InstallerSetup.Proofs.Rule.Basic

/-!
# Addresses of administrators

The pattern of an address leaves open where its parts meet, since a point is also a character of a
domain. But an address has only one at sign, and only letters follow its last point, so the texts of
the pattern are those whose parts at these two places are as they should be (`adminEmail_grammar`).
-/

namespace InstallerSetup.Rule

open Text (Pattern)
open Text.Pattern (Describes)

structure IsMailbox (cs : List Char) : Prop where
  filled : cs ≠ []
  spelled : SpelledWith ['.', '_', '%', '+', '-'] cs

structure IsDomain (cs : List Char) : Prop where
  spelled : SpelledWith ['.', '-'] cs
  /-- What lies before and behind the last point. -/
  parts : ∃ host top, cs = host ++ '.' :: top ∧ '.' ∉ top ∧ host ≠ [] ∧ 2 ≤ top.length ∧
    ∀ c ∈ top, c.isLower = true

theorem describes_mailbox_iff {cs : List Char} :
    Describes (.some (.one isMailboxCharacter)) cs ↔ IsMailbox cs := by
  rw [Pattern.describes_some_iff]
  constructor
  · rintro ⟨filled, spelled⟩
    exact ⟨filled, fun c member => isMailboxCharacter_iff.1 (spelled c member)⟩
  · rintro ⟨filled, spelled⟩
    exact ⟨filled, fun c member => isMailboxCharacter_iff.2 (spelled c member)⟩

theorem describes_top_iff {cs : List Char} :
    Describes (sequence [.one isLower, .some (.one isLower)]) cs ↔
      2 ≤ cs.length ∧ ∀ c ∈ cs, c.isLower = true := by
  rw [describes_sequence_cons_iff]
  constructor
  · rintro ⟨_, letters, rfl, letterOf, lettersOf⟩
    obtain ⟨c, rfl, first⟩ := Pattern.describes_one_iff.1 letterOf
    obtain ⟨filled, later⟩ := Pattern.describes_some_iff.1 lettersOf
    exact ⟨Nat.succ_le_succ (List.length_pos_iff.2 filled), List.forall_mem_cons.2 ⟨first, later⟩⟩
  · rintro ⟨long, letters⟩
    obtain ⟨c, rest, rfl⟩ := List.exists_cons_of_length_pos (Nat.le_of_succ_le long)
    obtain ⟨first, later⟩ := List.forall_mem_cons.1 letters
    have filled : rest ≠ [] := List.length_pos_iff.1 (Nat.le_of_succ_le_succ long)
    exact ⟨[c], rest, rfl, .one first, Pattern.describes_some_iff.2 ⟨filled, later⟩⟩

/-- The point of the pattern is the last one of a domain, since only letters follow it. -/
theorem describes_domain_iff {cs : List Char} :
    Describes
        (sequence
          [.some (.one isDomainCharacter), literal ".", .one isLower, .some (.one isLower)]) cs ↔
      IsDomain cs := by
  rw [describes_sequence_cons_iff]
  constructor
  · rintro ⟨host, _, rfl, hostOf, fromPoint⟩
    obtain ⟨top, rfl, topOf⟩ := describes_sequence_literal_iff.1 fromPoint
    obtain ⟨hostFilled, hostSpelled⟩ := Pattern.describes_some_iff.1 hostOf
    obtain ⟨long, letters⟩ := describes_top_iff.1 topOf
    have noPoint : '.' ∉ top := fun point => absurd (letters '.' point) (by decide)
    refine ⟨?_, host, top, rfl, noPoint, hostFilled, long, letters⟩
    intro c member
    rcases List.mem_append.1 member with inHost | member
    · exact isDomainCharacter_iff.1 (hostSpelled c inHost)
    · rcases List.mem_cons.1 member with rfl | inTop
      · exact .inr (.inr List.mem_cons_self)
      · exact .inl (letters c inTop)
  · rintro ⟨spelled, host, top, rfl, -, hostFilled, long, letters⟩
    have hostSpelled : ∀ c ∈ host, isDomainCharacter c = true := fun c member =>
      isDomainCharacter_iff.2 (spelled c (List.mem_append_left _ member))
    refine ⟨host, '.' :: top, rfl, Pattern.describes_some_iff.2 ⟨hostFilled, hostSpelled⟩, ?_⟩
    exact describes_sequence_literal_iff.2 ⟨top, rfl, describes_top_iff.2 ⟨long, letters⟩⟩

theorem describes_emailPattern_iff {cs : List Char} :
    Describes emailPattern cs ↔
      ∃ mailbox domain, cs = mailbox ++ '@' :: domain ∧ IsMailbox mailbox ∧ IsDomain domain := by
  rw [emailPattern, describes_sequence_cons_iff]
  constructor
  · rintro ⟨mailbox, _, rfl, mailboxOf, fromSign⟩
    obtain ⟨domain, rfl, domainOf⟩ := describes_sequence_literal_iff.1 fromSign
    exact ⟨mailbox, domain, rfl, describes_mailbox_iff.1 mailboxOf, describes_domain_iff.1 domainOf⟩
  · rintro ⟨mailbox, domain, rfl, mailboxIs, domainIs⟩
    refine ⟨mailbox, '@' :: domain, rfl, describes_mailbox_iff.2 mailboxIs, ?_⟩
    exact describes_sequence_literal_iff.2 ⟨domain, rfl, describes_domain_iff.2 domainIs⟩

/-- The parts at an at sign are the pieces between at signs, since they have none. -/
theorem pieces_sign_iff {s mailbox domain : List Char} (mailboxIs : IsMailbox mailbox)
    (domainIs : IsDomain domain) :
    Text.pieces '@' s = [mailbox, domain] ↔ s = mailbox ++ '@' :: domain := by
  constructor
  · intro cut
    rw [← Text.join_pieces '@' s, cut, Text.join, Text.join]
    exact List.cons_ne_nil _ _
  · rintro rfl
    have inMailbox : '@' ∉ mailbox := mailboxIs.spelled.not_mem (by decide)
    have inDomain : '@' ∉ domain := domainIs.spelled.not_mem (by decide)
    rw [Text.pieces_append inMailbox, Text.pieces_of_not_mem inDomain]

/-- The characters of an address. -/
theorem spelled_of_parts {mailbox domain : List Char} (mailboxIs : IsMailbox mailbox)
    (domainIs : IsDomain domain) :
    SpelledWith ['.', '_', '%', '+', '-', '@'] (mailbox ++ '@' :: domain) := by
  have sign : '@'.isLower ∨ '@'.isDigit ∨ '@' ∈ ['.', '_', '%', '+', '-', '@'] := by simp
  exact List.forall_mem_append.2 ⟨mailboxIs.spelled.mono (by simp),
    List.forall_mem_cons.2 ⟨sign, domainIs.spelled.mono (by simp)⟩⟩

/--
An address is accepted exactly if it has one at sign with a mailbox before it and a domain behind
it. No other character is ever accepted, a break or a letter beyond ASCII as little as any.
-/
theorem adminEmail_grammar (s : String) :
    (adminEmail s = .ok () ↔
      ∃ mailbox domain, Text.pieces '@' s.toList = [mailbox, domain] ∧
        IsMailbox mailbox ∧ IsDomain domain) ∧
      (adminEmail s = .ok () →
        SpelledWith ['.', '_', '%', '+', '-', '@'] s.toList ∧ '\n' ∉ s.toList ∧
          ∀ c ∈ s.toList, c.toNat < 128) := by
  have described : adminEmail s = .ok () ↔
      ∃ mailbox domain, s.toList = mailbox ++ '@' :: domain ∧
        IsMailbox mailbox ∧ IsDomain domain :=
    matching_eq_ok_iff.trans describes_emailPattern_iff
  constructor
  · rw [described]
    constructor
    · rintro ⟨mailbox, domain, parts, mailboxIs, domainIs⟩
      exact ⟨mailbox, domain, (pieces_sign_iff mailboxIs domainIs).2 parts, mailboxIs, domainIs⟩
    · rintro ⟨mailbox, domain, cut, mailboxIs, domainIs⟩
      exact ⟨mailbox, domain, (pieces_sign_iff mailboxIs domainIs).1 cut, mailboxIs, domainIs⟩
  · intro accepted
    obtain ⟨mailbox, domain, parts, mailboxIs, domainIs⟩ := described.1 accepted
    have spelled := spelled_of_parts mailboxIs domainIs
    rw [parts]
    exact ⟨spelled, spelled.not_mem (by decide), spelled.ascii (by simp)⟩

/-- The last point counts, and a break behind an address is refused. -/
example :
    adminEmail "first.last+tag@mail.example.org" = .ok () ∧
      adminEmail "admin@example.c" = .error .noEmail ∧
      adminEmail "admin@example.com\n" = .error .noEmail :=
  ⟨rfl, rfl, rfl⟩

end InstallerSetup.Rule
