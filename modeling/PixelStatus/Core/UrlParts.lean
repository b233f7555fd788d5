/-
# The parts of a URL

An accepted URL is a scheme mark, an authority and a rest that is empty or
begins with a slash or a question mark. The authority holds neither, so the
parts put together are split at the same places again.
-/

import PixelStatus.Core.DigitValues

namespace PixelStatus

/-- The mark of a scheme. -/
def HttpScheme.mark : HttpScheme → Bytes
  | http => bytes "http://"
  | https => bytes "https://"

/-- A byte that an accepted URL can have. -/
def PlainUrlByte (byte : UInt8) : Prop := byte ≠ 0x23 ∧ 0x20 < byte ∧ byte ≠ 0x7F

/-- What stands behind an authority: nothing, a path or a query. -/
def EndsAuthority (rest : Bytes) : Prop := ∀ byte ∈ rest.head?, byte = 0x2F ∨ byte = 0x3F

/-- The target of a request for what stands behind the authority. -/
def targetOf (rest : Bytes) : Bytes :=
  match rest with
  | [] => bytes "/"
  | 0x3F :: _ => bytes "/" ++ rest
  | _ => rest

/-- An authority has no byte that would end it. -/
def Unended (authority : Bytes) : Prop := ∀ byte ∈ authority, byte ≠ 0x2F ∧ byte ≠ 0x3F

/-- The text behind a colon of an authority that is not inside its brackets. -/
def PortText (authority port : Bytes) : Prop :=
  ∃ host, authority = host ++ 0x3A :: port ∧ (authority.head? = some 0x5B → 0x5D ∈ host)

/-! ## The parser by its parts -/

/-- A scheme's mark is recognized. -/
theorem schemeOf_mark (scheme : HttpScheme) (rest : Bytes) :
    schemeOf (scheme.mark ++ rest) = some (scheme, scheme.mark.length) := by
  unfold schemeOf
  cases scheme with
  | http => exact if_pos (List.prefix_append _ _)
  | https =>
      have other : ¬ bytes "http://" <+: HttpScheme.https.mark ++ rest := by
        intro same
        have marks := List.prefix_of_prefix_length_le same
          (List.prefix_append HttpScheme.https.mark rest) (by decide)
        revert marks
        decide
      rw [if_neg other]
      exact if_pos (List.prefix_append _ _)

/-- What is recognized is the mark at the start. -/
theorem schemeOf_eq_some {url : Bytes} {scheme : HttpScheme} {length : Nat}
    (found : schemeOf url = some (scheme, length)) :
    length = scheme.mark.length ∧ ∃ rest, url = scheme.mark ++ rest := by
  unfold schemeOf at found
  split at found
  next plain =>
    cases found
    obtain ⟨rest, rfl⟩ := plain
    exact ⟨rfl, rest, rfl⟩
  next =>
    split at found
    next secure =>
      cases found
      obtain ⟨rest, rfl⟩ := secure
      exact ⟨rfl, rest, rfl⟩
    · cases found

/-- The authority ends at the first byte that ends one. -/
theorem takeWhile_authority {authority rest : Bytes} (inside : Unended authority)
    (ends : EndsAuthority rest) :
    (authority ++ rest).takeWhile (fun character => character ≠ 0x2F && character ≠ 0x3F) =
      authority := by
  rw [List.takeWhile_append_of_pos]
  · cases rest with
    | nil => exact List.append_nil authority
    | cons first rest =>
        obtain rfl | rfl := ends first rfl
        · exact List.append_nil authority
        · exact List.append_nil authority
  · intro byte member
    obtain ⟨slash, query⟩ := inside byte member
    simp only [ne_eq, slash, not_false_eq_true, decide_true, query, Bool.and_self]

/-- Any text is an authority and what ends it. -/
theorem authority_split (remainder : Bytes) :
    ∃ authority rest, remainder = authority ++ rest ∧ Unended authority ∧ EndsAuthority rest := by
  refine ⟨remainder.takeWhile fun character => character ≠ 0x2F && character ≠ 0x3F,
    remainder.dropWhile fun character => character ≠ 0x2F && character ≠ 0x3F,
    List.takeWhile_append_dropWhile.symm, ?_, ?_⟩
  · intro byte member
    have passes := List.all_eq_true.mp List.all_takeWhile byte member
    simpa only [ne_eq, Bool.and_eq_true, decide_eq_true_eq] using passes
  · intro byte first
    have fails := List.head?_dropWhile_not
      (fun character : UInt8 => character ≠ 0x2F && character ≠ 0x3F) remainder
    rw [Option.mem_def.mp first] at fails
    simpa only [ne_eq, decide_not, Bool.and_eq_false_iff, Bool.not_eq_eq_eq_not, Bool.not_false,
      decide_eq_true_eq] using fails

/-- The check for strange bytes finds the plain texts. -/
theorem plain_iff {url : Bytes} :
    ¬ (0x23 ∈ url ∨ url.any (fun character => character ≤ 0x20 || character = 0x7F) = true) ↔
      ∀ byte ∈ url, PlainUrlByte byte := by
  rw [not_or, List.any_eq_true]
  simp only [Bool.or_eq_true, decide_eq_true_eq, not_exists, not_and, not_or, UInt8.not_le,
    PlainUrlByte]
  refine ⟨?_, ?_⟩
  · rintro ⟨mark, others⟩ byte member
    exact ⟨fun same => mark (same ▸ member), others byte member⟩
  · intro plain
    refine ⟨fun member => (plain _ member).1 rfl, fun byte member => (plain byte member).2⟩

/-- The URLs that are accepted, and how each is split. -/
theorem parseHttpUrl_eq_some {url : Bytes} {parsed : ParsedHttpUrl} :
    parseHttpUrl url = some parsed ↔ ∃ authority rest,
      url = parsed.scheme.mark ++ (authority ++ rest) ∧ (∀ byte ∈ url, PlainUrlByte byte) ∧
        (Unended authority ∧ EndsAuthority rest ∧ validAuthority authority = true) ∧
        parsed.base = parsed.scheme.mark ++ authority ∧ parsed.target = targetOf rest := by
  have step (scheme : HttpScheme) (authority rest : Bytes) (inside : Unended authority)
      (ends : EndsAuthority rest) (plain : ∀ byte ∈ scheme.mark ++ (authority ++ rest),
        PlainUrlByte byte) :
      parseHttpUrl (scheme.mark ++ (authority ++ rest)) =
        if !validAuthority authority then none
        else some { scheme, base := scheme.mark ++ authority, target := targetOf rest } := by
    rw [parseHttpUrl, schemeOf_mark]
    dsimp only
    rw [if_neg (plain_iff.mpr plain), List.drop_left, takeWhile_authority inside ends,
      List.drop_left, ← List.append_assoc, ← List.length_append, List.take_left]
    rfl
  refine ⟨?_, ?_⟩
  · intro accepted
    have whole := accepted
    unfold parseHttpUrl at accepted
    split at accepted
    · cases accepted
    next scheme length found =>
      obtain ⟨rfl, remainder, rfl⟩ := schemeOf_eq_some found
      split at accepted
      · cases accepted
      next plain =>
        have bytesPlain := plain_iff.mp plain
        obtain ⟨authority, rest, rfl, inside, ends⟩ := authority_split remainder
        rw [step scheme authority rest inside ends bytesPlain] at whole
        split at whole
        · cases whole
        next valid =>
          cases whole
          refine ⟨authority, rest, rfl, bytesPlain, ⟨inside, ends, ?_⟩, rfl, rfl⟩
          simpa only [Bool.not_eq_true', Bool.not_eq_false] using valid
  · rintro ⟨authority, rest, rfl, plain, ⟨inside, ends, valid⟩, base, target⟩
    rw [step parsed.scheme authority rest inside ends plain, valid, ← base, ← target]
    rfl

/-! ## The authority -/

/-- A valid port is a number between 1 and 65535. -/
theorem validPort_iff {text : Bytes} : validPort text = true ↔
    IsDigits text ∧ 1 ≤ decimalValue text ∧ decimalValue text ≤ 65535 := by
  have read {port : Nat} : fromCharsUnsigned text = some port ↔
      (IsDigits text ∧ port = decimalValue text) ∧ port < 2 ^ 32 := by
    rw [fromCharsUnsigned, Option.filter_eq_some_iff, digitsValue_eq_some, decide_eq_true_eq]
  unfold validPort
  split
  next unread =>
    refine iff_of_false Bool.false_ne_true ?_
    rintro ⟨digits, _, small⟩
    have found := read.mpr ⟨⟨digits, rfl⟩, small.trans_lt (by decide)⟩
    rw [unread] at found
    cases found
  next port found =>
    obtain ⟨⟨digits, rfl⟩, _⟩ := read.mp found
    rw [Bool.and_eq_true, decide_eq_true_eq, decide_eq_true_eq]
    exact ⟨fun range => ⟨digits, range⟩, fun spec => spec.2⟩

/-- A port that begins behind the first colon it can begin behind has no other. -/
theorem validPort_of_drop {host port : Bytes} {colon : Nat} (before : colon ≤ host.length)
    (valid : validPort ((host ++ 0x3A :: port).drop (colon + 1)) = true) :
    validPort port = true := by
  obtain same | inside := before.eq_or_lt
  · subst same
    rwa [List.drop_append, List.drop_eq_nil_of_le (Nat.le_succ _), Nat.add_sub_cancel_left] at valid
  · rw [List.drop_append_of_le_length inside] at valid
    have digit := (validPort_iff.mp valid).1.all 0x3A (List.mem_append_right _ List.mem_cons_self)
    simp [isDigitByte] at digit

/-- The first place of a byte is no later than any other. -/
theorem idxOf?_le {byte : UInt8} {front back : Bytes} {index : Nat}
    (found : (front ++ byte :: back).idxOf? byte = some index) : index ≤ front.length := by
  obtain ⟨_, _, first⟩ := List.idxOf?_eq_some_iff.mp found
  refine Nat.le_of_not_lt fun later => first front.length later ?_
  rw [List.getElem_append_right (Nat.le_refl _)]
  simp only [Nat.sub_self, List.getElem_cons_zero]

/-- An accepted authority is not empty and has no user name; a port is in range. -/
theorem validAuthority_spec {authority : Bytes} (valid : validAuthority authority = true) :
    authority ≠ [] ∧ 0x40 ∉ authority ∧ ∀ port, PortText authority port → validPort port = true := by
  unfold validAuthority at valid
  split at valid
  · cases valid
  next plain =>
    rw [not_or] at plain
    refine ⟨plain.1, plain.2, ?_⟩
    rintro port ⟨host, rfl, outside⟩
    split at valid
    next bracketed =>
      split at valid
      · cases valid
      next bracket found =>
        have closed : bracket + 1 ≤ host.length := by
          obtain ⟨front, back, rfl⟩ := List.append_of_mem (outside bracketed)
          rw [List.append_assoc] at found
          have before := idxOf?_le found
          rw [List.length_append, List.length_cons]
          omega
        simp only [Bool.and_eq_true, Bool.or_eq_true, decide_eq_true_eq] at valid
        obtain ⟨_, last | ⟨_, number⟩⟩ := valid
        · rw [List.length_append, List.length_cons] at last
          omega
        · exact validPort_of_drop closed number
    · split at valid
      next absent =>
        rw [lastIndexOf, Option.map_eq_none_iff, List.idxOf?_eq_none_iff, List.mem_reverse] at absent
        exact absurd (List.mem_append_right _ List.mem_cons_self) absent
      next colon _ =>
        simp only [Bool.and_eq_true, decide_eq_true_eq] at valid
        obtain ⟨⟨_, first⟩, number⟩ := valid
        exact validPort_of_drop (idxOf?_le first) number

/-! ## Split and put together -/

/-- The target begins with a slash, which is there or put there. -/
theorem targetOf_endsAuthority (rest : Bytes) (ends : EndsAuthority rest) :
    (targetOf rest).head? = some 0x2F ∧ targetOf (targetOf rest) = targetOf rest ∧
      ((rest.head? = some 0x2F ∧ targetOf rest = rest) ∨
        (rest = [] ∨ rest.head? = some 0x3F) ∧ targetOf rest = 0x2F :: rest) := by
  cases rest with
  | nil => exact ⟨rfl, rfl, .inr ⟨.inl rfl, rfl⟩⟩
  | cons first rest =>
      obtain rfl | rfl := ends first rfl
      · exact ⟨rfl, rfl, .inl ⟨rfl, rfl⟩⟩
      · exact ⟨rfl, rfl, .inr ⟨.inr rfl, rfl⟩⟩

/-- The target of a plain text is plain. -/
theorem targetOf_plain {rest : Bytes} (plain : ∀ byte ∈ rest, PlainUrlByte byte)
    (ends : EndsAuthority rest) : ∀ byte ∈ targetOf rest, PlainUrlByte byte := by
  obtain ⟨_, same⟩ | ⟨_, same⟩ := (targetOf_endsAuthority rest ends).2.2
  · rwa [same]
  · rw [same]
    exact List.forall_mem_cons.mpr ⟨by unfold PlainUrlByte; decide, plain⟩

/-- The base and the target of an accepted URL are the URL, up to the slash of a
missing path; its authority and both parts are well formed; and the parts put
together are split into the same parts. -/
theorem parseHttpUrl_parts {url : Bytes} {parsed : ParsedHttpUrl}
    (accepted : parseHttpUrl url = some parsed) :
    (∃ rest, url = parsed.base ++ rest ∧
      ((rest.head? = some 0x2F ∧ parsed.target = rest) ∨
        (rest = [] ∨ rest.head? = some 0x3F) ∧ parsed.target = 0x2F :: rest)) ∧
    (∃ authority, parsed.base = parsed.scheme.mark ++ authority ∧ authority ≠ [] ∧
      (∀ byte ∈ authority, byte ≠ 0x40 ∧ byte ≠ 0x2F ∧ byte ≠ 0x3F) ∧
      ∀ port, PortText authority port →
        IsDigits port ∧ 1 ≤ decimalValue port ∧ decimalValue port ≤ 65535) ∧
    parsed.target.head? = some 0x2F ∧
    (∀ byte ∈ parsed.base ++ parsed.target, byte ≠ 0x23 ∧ 0x20 < byte ∧ byte ≠ 0x7F) ∧
    parseHttpUrl (parsed.base ++ parsed.target) = some parsed := by
  obtain ⟨authority, rest, rfl, plain, ⟨inside, ends, valid⟩, base, target⟩ :=
    parseHttpUrl_eq_some.mp accepted
  obtain ⟨slash, again, shape⟩ := targetOf_endsAuthority rest ends
  obtain ⟨nonempty, user, ports⟩ := validAuthority_spec valid
  rw [← List.append_assoc] at plain
  obtain ⟨basePlain, restPlain⟩ := List.forall_mem_append.mp plain
  have partsPlain : ∀ byte ∈ parsed.base ++ parsed.target, PlainUrlByte byte := by
    rw [base, target]
    exact List.forall_mem_append.mpr ⟨basePlain, targetOf_plain restPlain ends⟩
  refine ⟨⟨rest, ?_, ?_⟩, ⟨authority, base, nonempty, ?_, ?_⟩, ?_, partsPlain, ?_⟩
  · rw [base, List.append_assoc]
  · rwa [target]
  · intro byte member
    exact ⟨fun same => user (same ▸ member), inside byte member⟩
  · intro port behind
    exact validPort_iff.mp (ports port behind)
  · rwa [target]
  · refine parseHttpUrl_eq_some.mpr ⟨authority, targetOf rest, ?_, partsPlain,
      ⟨inside, ?_, valid⟩, base, ?_⟩
    · rw [base, target, List.append_assoc]
    · intro byte first
      rw [slash] at first
      exact .inl (Option.some.inj first).symm
    · rw [target, again]

/-- A query behind a port, without a path. -/
theorem parseHttpUrl_parts_query :
    parseHttpUrl (bytes "https://[::1]:8443/?up=1") = some
        { scheme := .https, base := bytes "https://[::1]:8443", target := bytes "/?up=1" } ∧
      ∃ port, PortText (bytes "[::1]:8443") port ∧ decimalValue port ≤ 65535 := by
  have accepted : parseHttpUrl (bytes "https://[::1]:8443?up=1") = some
      { scheme := .https, base := bytes "https://[::1]:8443", target := bytes "/?up=1" } := by
    decide
  obtain ⟨_, ⟨authority, base, _, _, ports⟩, _, _, again⟩ := parseHttpUrl_parts accepted
  refine ⟨again, bytes "8443", ⟨bytes "[::1]", rfl, fun _ => by decide⟩, ?_⟩
  have whole : HttpScheme.https.mark ++ bytes "[::1]:8443" = HttpScheme.https.mark ++ authority :=
    base
  obtain rfl := List.append_cancel_left whole
  exact (ports (bytes "8443") ⟨bytes "[::1]", rfl, fun _ => by decide⟩).2.2

end PixelStatus
