import RemoteBrowser.Worker.SdpRewrite

/-!
# Sections of a session description

A text is read as its sections; the lines of rewritten sections are read as these sections again.
So what holds of a section holds of a text, apart from the format parameters of payloads without an
`rtpmap` line and of repeated payloads, which the rewriting drops.
-/

namespace RemoteBrowser.Sdp

open Python

/-! ## Reading sections -/

section Reading

variable {current lines more : List Text} {list : List (List Text)} {keep : Text → Bool}

/-- A line `m=` and the lines up to the next one. -/
def IsMediaSection (lines : List Text) : Prop :=
  ∃ head tail, lines = head :: tail ∧ isMedia head = true ∧ ∀ line ∈ tail, isMedia line = false

/-- Sections as they are read; only the first one may begin with another line. -/
def IsSections : List (List Text) → Prop
  | [] => True
  | first :: rest =>
      (∃ head tail, first = head :: tail ∧ ∀ line ∈ tail, isMedia line = false) ∧
        ∀ later ∈ rest, IsMediaSection later

theorem splitSections_append {rest : List Text} (begun : current ≠ [])
    (clean : ∀ line ∈ more, isMedia line = false) :
    splitSections current (more ++ rest) = splitSections (current ++ more) rest := by
  induction more generalizing current with
  | nil => rw [List.nil_append, List.append_nil]
  | cons line more ih =>
      rw [List.forall_mem_cons] at clean
      have goesOn : ¬(isMedia line = true ∧ current ≠ []) := by
        rw [clean.1]
        exact fun both => Bool.false_ne_true both.1
      rw [List.cons_append, splitSections, if_neg goesOn,
        ih (List.append_ne_nil_of_right_ne_nil _ (List.cons_ne_nil _ _)) clean.2,
        List.append_assoc, List.singleton_append]

theorem splitSections_media (begun : current ≠ [])
    (later : ∀ next ∈ list, IsMediaSection next) :
    splitSections current list.flatten = current :: list := by
  induction list generalizing current with
  | nil => rw [List.flatten_nil, splitSections, if_neg begun]
  | cons next list ih =>
      rw [List.forall_mem_cons] at later
      obtain ⟨head, tail, rfl, media, clean⟩ := later.1
      rw [List.flatten_cons, List.cons_append, splitSections, if_pos ⟨media, begun⟩,
        splitSections_append (List.cons_ne_nil _ _) clean, List.singleton_append,
        ih (List.cons_ne_nil _ _) later.2]

/-- The lines of sections are read as these sections. -/
theorem splitSections_flatten (shape : IsSections list) :
    splitSections [] list.flatten = list := by
  cases list with
  | nil => rfl
  | cons first rest =>
      obtain ⟨⟨head, tail, rfl, clean⟩, later⟩ := shape
      rw [List.flatten_cons, List.cons_append, splitSections, if_neg fun both => both.2 rfl,
        List.nil_append, splitSections_append (List.cons_ne_nil _ _) clean, List.singleton_append,
        splitSections_media (List.cons_ne_nil _ _) later]

theorem splitSections_shape (begun : current ≠ []) (lines : List Text) :
    ∃ more rest, splitSections current lines = (current ++ more) :: rest ∧
      (∀ line ∈ more, isMedia line = false) ∧ (∀ next ∈ rest, IsMediaSection next) ∧
        more ++ rest.flatten = lines := by
  induction lines generalizing current with
  | nil =>
      have read : splitSections current [] = [current ++ []] := by
        rw [splitSections, if_neg begun, List.append_nil]
      exact ⟨[], [], read, List.forall_mem_nil _, List.forall_mem_nil _, rfl⟩
  | cons line lines ih =>
      rw [splitSections]
      split
      case isTrue media =>
        obtain ⟨more, rest, read, clean, later, whole⟩ := ih (List.cons_ne_nil line [])
        refine ⟨[], (line :: more) :: rest, ?_, by simp, ?_, ?_⟩
        · rw [read, List.append_nil]
          rfl
        · exact List.forall_mem_cons.mpr ⟨⟨line, more, rfl, media.1, clean⟩, later⟩
        · rw [← whole]
          rfl
      case isFalse other =>
        have plain : isMedia line = false := by
          rw [← Bool.not_eq_true]
          exact fun media => other ⟨media, begun⟩
        obtain ⟨more, rest, read, clean, later, whole⟩ :=
          ih (List.append_ne_nil_of_right_ne_nil current (List.cons_ne_nil line []))
        refine ⟨line :: more, rest, ?_, List.forall_mem_cons.mpr ⟨plain, clean⟩, later, ?_⟩
        · rw [read, List.append_assoc, List.singleton_append]
        · rw [List.cons_append, whole]

theorem isSections_splitSections (lines : List Text) : IsSections (splitSections [] lines) := by
  cases lines with
  | nil => trivial
  | cons line lines =>
      obtain ⟨more, rest, read, clean, later, -⟩ :=
        splitSections_shape (List.cons_ne_nil line []) lines
      rw [splitSections, if_neg fun both => both.2 rfl, List.nil_append, read]
      exact ⟨⟨line, more, rfl, clean⟩, later⟩

theorem flatten_splitSections (lines : List Text) : (splitSections [] lines).flatten = lines := by
  cases lines with
  | nil => rfl
  | cons line lines =>
      obtain ⟨more, rest, read, -, -, whole⟩ := splitSections_shape (List.cons_ne_nil line []) lines
      rw [splitSections, if_neg fun both => both.2 rfl, List.nil_append, read, List.flatten_cons,
        List.append_assoc, whole]
      rfl

/-- Sections as lists of lines that some operation maps. -/
theorem IsSections.map {f : List Text → List Text} (shape : IsSections list)
    (keepsHead : ∀ head tail, (∀ line ∈ tail, isMedia line = false) →
      ∃ later, f (head :: tail) = head :: later ∧ ∀ line ∈ later, isMedia line = false) :
    IsSections (list.map f) := by
  cases list with
  | nil => trivial
  | cons first rest =>
      obtain ⟨⟨head, tail, rfl, clean⟩, later⟩ := shape
      rw [List.map_cons, IsSections]
      constructor
      · obtain ⟨mapped, same, plain⟩ := keepsHead head tail clean
        exact ⟨head, mapped, same, plain⟩
      · intro next member
        obtain ⟨before, listed, rfl⟩ := List.mem_map.mp member
        obtain ⟨head, tail, rfl, media, clean⟩ := later before listed
        obtain ⟨mapped, same, plain⟩ := keepsHead head tail clean
        exact ⟨head, mapped, same, media, plain⟩

/-- The sections of the lines that are kept. -/
theorem IsSections.filter (shape : IsSections list)
    (keepsMedia : ∀ line, isMedia line = true → keep line) :
    IsSections ((list.map (List.filter keep)).filter (· ≠ [])) := by
  have media : ∀ next, IsMediaSection next →
      IsMediaSection (next.filter keep) := by
    rintro next ⟨head, tail, rfl, media, clean⟩
    exact ⟨head, tail.filter keep, List.filter_cons_of_pos (keepsMedia head media), media,
      fun line member => clean line (List.mem_filter.mp member).1⟩
  have later : ∀ rest : List (List Text), (∀ next ∈ rest, IsMediaSection next) →
      ∀ next ∈ (rest.map (List.filter keep)).filter (· ≠ []), IsMediaSection next := by
    intro rest all next member
    obtain ⟨before, listed, rfl⟩ := List.mem_map.mp (List.mem_filter.mp member).1
    exact media before (all before listed)
  cases list with
  | nil => trivial
  | cons first rest =>
      obtain ⟨⟨head, tail, rfl, clean⟩, rest_media⟩ := shape
      rw [List.map_cons]
      cases kept : (head :: tail).filter keep with
      | nil =>
          have others := later rest rest_media
          rw [List.filter_cons_of_neg (by simp)]
          cases sections : (rest.map (List.filter keep)).filter (· ≠ []) with
          | nil => trivial
          | cons next more =>
              rw [sections, List.forall_mem_cons] at others
              obtain ⟨head, tail, same, -, clean⟩ := others.1
              exact ⟨⟨head, tail, same, clean⟩, others.2⟩
      | cons first more =>
          rw [List.filter_cons_of_pos (by simp)]
          refine ⟨⟨first, more, rfl, ?_⟩, later rest rest_media⟩
          -- the lines behind the first one that is kept were behind the head
          intro line member
          have inside : List.Sublist (first :: more) (head :: tail) := kept ▸ List.filter_sublist
          exact clean line (inside.tail.subset member)

end Reading

/-! ## Lines of rewritten sections -/

section Lines

variable {platform : CasePlatform} {config : BitrateConfig} {head : Text} {lines tail : List Text}

theorem isLine_of_subset {line text : Text} (plain : IsLine line) (inside : text ⊆ line) :
    IsLine text :=
  fun point member => plain point (inside member)

theorem isLine_decimal (value : ℕ) : IsLine (decimal value) := by
  intro point member
  have bounds := mem_decimal member
  simp only [isLineBreak, Bool.or_eq_false_iff, Bool.and_eq_false_iff, decide_eq_false_iff_not,
    beq_eq_false_iff_ne]
  omega

theorem isLine_append {first second : Text} (left : IsLine first) (right : IsLine second) :
    IsLine (first ++ second) :=
  List.forall_mem_append.mpr ⟨left, right⟩

theorem isLine_lit {text : String} (plain : (lit text).all fun point => !isLineBreak point) :
    IsLine (lit text) := by
  intro point member
  simpa using List.all_eq_true.mp plain point member

theorem isLine_hintPart {name : Text} (hint : IsHintName name) (value : ℕ) :
    IsLine (hintPart name value) := by
  have plain : IsLine name := by
    rcases hint with rfl | rfl | rfl
    · exact isLine_lit rfl
    · exact isLine_lit rfl
    · exact isLine_lit rfl
  exact isLine_append plain (List.forall_mem_cons.mpr ⟨rfl, isLine_decimal value⟩)

theorem mem_joinParts {parts : List Text} {point : ℕ} (member : point ∈ joinParts parts) :
    point = 59 ∨ ∃ part ∈ parts, point ∈ part := by
  induction parts with
  | nil => cases member
  | cons part rest ih =>
      cases rest with
      | nil =>
          rw [joinParts, List.intercalate_singleton] at member
          exact .inr ⟨part, List.mem_cons_self, member⟩
      | cons next rest =>
          rw [joinParts, List.intercalate_cons_cons, ← joinParts, List.append_assoc,
            List.mem_append, List.mem_append, List.mem_singleton] at member
          rcases member with inside | separator | later
          · exact .inr ⟨part, List.mem_cons_self, inside⟩
          · exact .inl separator
          · rcases ih later with separator | ⟨found, listed, inside⟩
            · exact .inl separator
            · exact .inr ⟨found, List.mem_cons_of_mem _ listed, inside⟩

theorem subset_of_mem_splitOn {text part : Text} (member : part ∈ text.splitOn 59) :
    part ⊆ text := by
  rw [← @List.intercalate_splitOn _ text _ _ 59]
  generalize text.splitOn 59 = parts at member
  induction parts with
  | nil => cases member
  | cons first rest ih =>
      cases rest with
      | nil =>
          rw [List.mem_singleton] at member
          rw [member, List.intercalate_singleton]
          exact List.Subset.refl _
      | cons next rest =>
          rw [List.intercalate_cons_cons]
          rcases List.mem_cons.mp member with rfl | later
          · exact List.subset_append_of_subset_left _ (List.subset_append_left _ _)
          · exact List.subset_append_of_subset_right _ (ih later)

theorem isLine_bitrateHints {params : Text} (plain : IsLine params) :
    IsLine (bitrateHints platform config params) := by
  have parts : ∀ part ∈ fmtpParts params, IsLine part := by
    intro part member
    obtain ⟨raw, piece, rfl⟩ := List.mem_map.mp (List.mem_filter.mp member).1
    apply isLine_of_subset plain
    exact fun _ inside => subset_of_mem_splitOn piece (mem_of_mem_strip inside)
  have hinted : ∀ part ∈ hintParts platform config (fmtpParts params), IsLine part :=
    forall_setParameter (isLine_hintPart (.inr (.inr rfl)) _)
      (forall_setParameter (isLine_hintPart (.inr (.inl rfl)) _)
        (forall_setParameter (isLine_hintPart (.inl rfl) _) parts))
  rw [bitrateHints_eq]
  intro point member
  rcases mem_joinParts member with rfl | ⟨part, listed, inside⟩
  · rfl
  · exact hinted part listed point inside

theorem fmtpParams_subset (line : Text) : fmtpParams line ⊆ line := by
  intro point member
  rw [fmtpParams, after] at member
  cases found : line.dropWhile (· ≠ 32) with
  | nil => rw [found] at member; cases member
  | cons separator rest =>
      rw [found] at member
      exact (List.dropWhile_suffix _).mem (found ▸ List.mem_cons_of_mem separator member)

theorem rtpmapPayload_subset (line : Text) : rtpmapPayload line ⊆ line := by
  intro point member
  exact List.mem_of_mem_drop ((List.takeWhile_prefix _).mem (mem_of_mem_strip member))

theorem isLine_lastFmtp {params payload : Text} (plain : ∀ line ∈ lines, IsLine line)
    (found : lastFmtp lines payload = some params) : IsLine params := by
  obtain ⟨line, last, rfl⟩ := Option.map_eq_some_iff.mp found
  have listed := (List.mem_filter.mp (List.mem_of_getLast? last)).1
  exact isLine_of_subset (plain line listed) (fmtpParams_subset line)

theorem isLine_sectionParams {params payload : Text} (plain : ∀ line ∈ lines, IsLine line)
    (found : sectionParams platform config lines payload = some params) : IsLine params := by
  rw [sectionParams_eq] at found
  split at found
  case isTrue =>
    obtain rfl := Option.some.inj found
    apply isLine_bitrateHints
    cases last : lastFmtp lines payload with
    | none => exact List.forall_mem_nil _
    | some params => exact isLine_lastFmtp plain last
  case isFalse => exact isLine_lastFmtp plain found

theorem isLine_of_mem_bandwidthLines {line : Text} (member : line ∈ bandwidthLines config) :
    IsLine line := by
  rcases List.mem_cons.mp member with rfl | member
  · exact isLine_append (isLine_lit rfl) (isLine_decimal _)
  · rw [List.mem_singleton] at member
    rw [member]
    exact isLine_append (isLine_lit rfl) (isLine_decimal _)

/-- Rewritten lines have no line breaks. -/
theorem isLine_of_mem_tuneSection (plain : ∀ line ∈ lines, IsLine line) :
    ∀ line ∈ tuneSection platform config lines, IsLine line := by
  cases video : lines.head?.any isVideo with
  | false =>
      rw [tuneSection_other video]
      exact plain
  | true =>
      cases lines with
      | nil => cases video
      | cons head tail =>
          rw [List.head?_cons, Option.any_some] at video
          have ordered : ∀ line ∈ withBandwidth config (head :: tail.filter isOrdered),
              IsLine line := by
            intro line member
            rcases mem_withBandwidth.mp member with bandwidth | listed
            · exact isLine_of_mem_bandwidthLines bandwidth
            rcases List.mem_cons.mp listed with rfl | listed
            · exact plain _ List.mem_cons_self
            · exact plain _ (List.mem_cons_of_mem _ (List.mem_filter.mp listed).1)
          rw [tuneSection_video video]
          intro line member
          rcases mem_rebuild member with kept | ⟨rtpmap, listed, params, found, rfl⟩
          · exact ordered line kept
          · have start : IsLine (lit "a=fmtp:" ++ rtpmapPayload rtpmap) :=
              isLine_append (isLine_lit rfl)
                (isLine_of_subset (ordered rtpmap listed) (rtpmapPayload_subset rtpmap))
            exact isLine_append start
              (List.forall_mem_cons.mpr ⟨rfl, isLine_sectionParams plain found⟩)

/-- A rewritten section begins with the same line and has no other line `m=`. -/
theorem clean_tuneSection (head : Text) (tail : List Text)
    (clean : ∀ line ∈ tail, isMedia line = false) :
    ∃ later, tuneSection platform config (head :: tail) = head :: later ∧
      ∀ line ∈ later, isMedia line = false := by
  cases video : isVideo head with
  | false => exact ⟨tail, tuneSection_other video, clean⟩
  | true =>
      obtain ⟨later, shape⟩ := @head_tuneSection platform config head tail video
      refine ⟨later, shape, ?_⟩
      have media : ∀ lines : List Text,
          (lines.filter isOrdered).filter isMedia = lines.filter isMedia := by
        intro lines
        rw [List.filter_filter]
        apply List.filter_congr
        intro line _
        cases media : isMedia line with
        | true => rw [isOrdered_of_isMedia media, Bool.and_true]
        | false => rw [Bool.false_and]
      have same : later.filter isMedia = tail.filter isMedia := by
        have ordered := @ordered_tuneSection platform config (head :: tail)
        have lines := congrArg (List.filter isMedia) ordered
        rw [media, media, shape, List.filter_cons_of_pos (isMedia_of_isVideo video),
          List.filter_cons_of_pos (isMedia_of_isVideo video)] at lines
        exact List.tail_eq_of_cons_eq lines
      have none : tail.filter isMedia = [] := by
        rw [List.filter_eq_nil_iff]
        intro line member
        rw [clean line member]
        exact Bool.false_ne_true
      rw [none, List.filter_eq_nil_iff] at same
      intro line member
      exact Bool.eq_false_iff.mpr (same line member)

end Lines

/-! ## Format parameters that are kept -/

section Kept

variable {platform : CasePlatform} {config : BitrateConfig} {head : Text} {lines tail : List Text}

theorem sectionParams_other {params payload : Text} (found : lastFmtp lines payload = some params) :
    ∃ tuned, sectionParams platform config lines payload = some tuned ∧
      otherParams platform tuned = otherParams platform params := by
  rw [sectionParams_eq, found]
  split
  case isTrue => exact ⟨_, rfl, otherParams_bitrateHints params⟩
  case isFalse => exact ⟨params, rfl, rfl⟩

theorem lastFmtp_of_mem {line : Text} (member : line ∈ lines) (fmtp : isFmtp line = true) :
    ∃ params, lastFmtp lines (fmtpPayload line) = some params := by
  have listed : line ∈ lines.filter (isFmtpOf (fmtpPayload line)) := by
    rw [List.mem_filter]
    exact ⟨member, by simp [isFmtpOf, fmtp]⟩
  rw [lastFmtp, List.getLast?_eq_some_getLast (List.ne_nil_of_mem listed)]
  exact ⟨_, rfl⟩

/-- A line of format parameters of a video section is kept if and only if its payload has an
`rtpmap` line and the payload's last such line has its parameters as well. -/
theorem fmtp_kept_iff (video : isVideo head = true) {line : Text} (member : line ∈ head :: tail)
    (fmtp : isFmtp line = true) :
    (∃ kept ∈ tuneSection platform config (head :: tail), isFmtp kept = true ∧
        fmtpPayload kept = fmtpPayload line ∧
        List.Sublist (otherParams platform (fmtpParams line))
          (otherParams platform (fmtpParams kept))) ↔
      (head :: tail).any (isRtpmapOf (fmtpPayload line)) = true ∧
        ∀ params, lastFmtp (head :: tail) (fmtpPayload line) = some params →
          List.Sublist (otherParams platform (fmtpParams line)) (otherParams platform params) := by
  obtain ⟨params, last⟩ := lastFmtp_of_mem member fmtp
  obtain ⟨tuned, known, others⟩ := @sectionParams_other platform config _ _ _ last
  have written := @fmtp_tuneSection platform config head tail video (fmtpPayload line)
  rw [known] at written
  constructor
  · rintro ⟨kept, inside, keptFmtp, payload, sublist⟩
    have found : kept ∈ (tuneSection platform config (head :: tail)).filter
        (isFmtpOf (fmtpPayload line)) := by
      rw [List.mem_filter]
      exact ⟨inside, by simp [isFmtpOf, keptFmtp, payload]⟩
    rw [written] at found
    split at found
    case isFalse => cases found
    case isTrue rtpmap =>
      refine ⟨rtpmap, ?_⟩
      intro found_params same
      obtain rfl := Option.some.inj (last.symm.trans same)
      obtain ⟨rtpmapLine, -, ofPayload⟩ := List.any_eq_true.mp rtpmap
      rw [isRtpmapOf, Bool.and_eq_true, beq_iff_eq] at ofPayload
      rw [Option.toList_some, List.map_singleton, List.mem_singleton, ofPayload.2] at found
      rwa [found, fmtpParams_fmtpLine, others] at sublist
  · rintro ⟨rtpmap, sublist⟩
    obtain ⟨rtpmapLine, -, ofPayload⟩ := List.any_eq_true.mp rtpmap
    rw [isRtpmapOf, Bool.and_eq_true, beq_iff_eq] at ofPayload
    rw [if_pos rtpmap, Option.toList_some, List.map_singleton] at written
    have inside : fmtpLine (fmtpPayload line) tuned ∈
        (tuneSection platform config (head :: tail)).filter (isFmtpOf (fmtpPayload line)) := by
      rw [written]
      exact List.mem_cons_self
    refine ⟨_, (List.mem_filter.mp inside).1, isFmtp_fmtpLine _ _, ?_, ?_⟩
    · rw [ofPayload.2, fmtpPayload_fmtpLine]
    · rw [ofPayload.2, fmtpParams_fmtpLine, others]
      exact sublist params last

end Kept

/-! ## Texts -/

section Texts

variable {platform : CasePlatform} {config : BitrateConfig} {sdp : Text}

/-- What the rewriting of a section may change. -/
structure SectionKept (platform : CasePlatform) (before after : List Text) : Prop where
  other : before.head?.any isVideo = false → after = before
  lines : after.filter isOrdered = before.filter isOrdered
  fmtp : before.head?.any isVideo = true → ∀ line ∈ before, isFmtp line = true →
    ∃ kept ∈ after, isFmtp kept = true ∧ fmtpPayload kept = fmtpPayload line ∧
      List.Sublist (otherParams platform (fmtpParams line)) (otherParams platform (fmtpParams kept))

/-- The rewriting of this text changes only the bitrate hints. -/
structure ChangesOnlyHints (platform : CasePlatform) (config : BitrateConfig) (sdp : Text) :
    Prop where
  sections : List.Forall₂ (SectionKept platform) (sections sdp)
    (sections (applyVideoBitrateHintsToSdp platform config sdp))
  idempotent : applyVideoBitrateHintsToSdp platform config
    (applyVideoBitrateHintsToSdp platform config sdp) =
      applyVideoBitrateHintsToSdp platform config sdp
  commutes : ∀ allowedTypes,
    filterSdpCandidates platform (applyVideoBitrateHintsToSdp platform config sdp) allowedTypes =
      applyVideoBitrateHintsToSdp platform config (filterSdpCandidates platform sdp allowedTypes)
  removes : ∀ allowedTypes, sdp ≠ [] →
    filterSdpCandidates platform sdp allowedTypes =
        joinLines ((splitlines sdp).filter (keepsLine platform allowedTypes)) ∧
      ((splitlines sdp).filter (keepsLine platform allowedTypes) ≠ [] →
        splitlines (filterSdpCandidates platform sdp allowedTypes) =
          (splitlines sdp).filter (keepsLine platform allowedTypes))

/-- In every video section each payload with format parameters has an `rtpmap` line, and its last
format parameters have those of its other lines. -/
def FmtpComplete (platform : CasePlatform) (sdp : Text) : Prop :=
  ∀ lines ∈ sections sdp, lines.head?.any isVideo = true → ∀ line ∈ lines, isFmtp line = true →
    lines.any (isRtpmapOf (fmtpPayload line)) = true ∧
      ∀ params, lastFmtp lines (fmtpPayload line) = some params →
        List.Sublist (otherParams platform (fmtpParams line)) (otherParams platform params)

theorem rdropWhile_return {lines : List Text} (plain : ∀ line ∈ lines, IsLine line) :
    lines.map (List.rdropWhile (· == 13)) = lines := by
  rw [List.map_congr_left (g := id), List.map_id]
  intro line member
  rw [id, List.rdropWhile_eq_self_iff]
  intro some return13
  have point := plain line member _ (List.getLast_mem some)
  rw [eq_of_beq return13] at point
  cases point

theorem sections_joinLines {lines : List Text} (some : lines ≠ [])
    (plain : ∀ line ∈ lines, IsLine line) :
    Sdp.sections (joinLines lines) = splitSections [] lines := by
  rw [Sdp.sections, splitlines_joinLines some plain, rdropWhile_return plain]

theorem sections_eq (sdp : Text) : Sdp.sections sdp = splitSections [] (splitlines sdp) := by
  rw [Sdp.sections, rdropWhile_return fun _ => isLine_of_mem_splitlines]

theorem flatten_sections (sdp : Text) : (Sdp.sections sdp).flatten = splitlines sdp := by
  rw [sections_eq, flatten_splitSections]

theorem isSections_sections (sdp : Text) : IsSections (Sdp.sections sdp) := by
  rw [sections_eq]
  exact isSections_splitSections _

/-- The rewritten lines of a text. -/
def tunedLines (platform : CasePlatform) (config : BitrateConfig) (sdp : Text) : List Text :=
  ((Sdp.sections sdp).map (tuneSection platform config)).flatten

theorem isSections_tuned (sdp : Text) :
    IsSections ((Sdp.sections sdp).map (tuneSection platform config)) :=
  (isSections_sections sdp).map clean_tuneSection

theorem tunedLines_plain : ∀ line ∈ tunedLines platform config sdp, IsLine line := by
  intro line member
  obtain ⟨tuned, listed, inside⟩ := List.mem_flatten.mp member
  obtain ⟨lines, found, rfl⟩ := List.mem_map.mp listed
  apply isLine_of_mem_tuneSection _ line inside
  intro line member
  apply @isLine_of_mem_splitlines line sdp
  rw [← flatten_sections]
  exact List.mem_flatten_of_mem found member

theorem flatten_ne_nil {list : List (List Text)} (shape : IsSections list) (some : list ≠ []) :
    list.flatten ≠ [] := by
  cases list with
  | nil => exact absurd rfl some
  | cons first rest =>
      obtain ⟨⟨head, tail, rfl, -⟩, -⟩ := shape
      exact List.cons_ne_nil _ _

theorem tunedLines_ne_nil (some : sdp ≠ []) : tunedLines platform config sdp ≠ [] := by
  apply flatten_ne_nil (isSections_tuned sdp)
  rw [Ne, List.map_eq_nil_iff]
  intro none
  have whole := flatten_sections sdp
  rw [none] at whole
  exact splitlines_ne_nil some whole.symm

theorem apply_eq (some : sdp ≠ []) :
    applyVideoBitrateHintsToSdp platform config sdp =
      joinLines (tunedLines platform config sdp) := by
  rw [applyVideoBitrateHintsToSdp, if_neg some, tunedLines]

/-- The sections of the rewritten text are the rewritten sections. -/
theorem sections_apply (sdp : Text) :
    Sdp.sections (applyVideoBitrateHintsToSdp platform config sdp) =
      (Sdp.sections sdp).map (tuneSection platform config) := by
  by_cases none : sdp = []
  · rw [none]
    rfl
  · rw [apply_eq none, sections_joinLines (tunedLines_ne_nil none) tunedLines_plain, tunedLines,
      splitSections_flatten (isSections_tuned sdp)]

theorem apply_idem (sdp : Text) :
    applyVideoBitrateHintsToSdp platform config (applyVideoBitrateHintsToSdp platform config sdp) =
      applyVideoBitrateHintsToSdp platform config sdp := by
  by_cases none : sdp = []
  · rw [none]
    rfl
  · have some : applyVideoBitrateHintsToSdp platform config sdp ≠ [] := by
      rw [apply_eq none]
      exact joinLines_ne_nil _
    have same : tunedLines platform config (applyVideoBitrateHintsToSdp platform config sdp) =
        tunedLines platform config sdp := by
      rw [tunedLines, sections_apply, List.map_map, tunedLines]
      congr 2
      exact funext fun lines => tuneSection_idem lines
    rw [apply_eq some, same, apply_eq none]

/-- The lines that are kept, of rewritten sections. -/
theorem filter_tunedLines (allowedTypes : List Text) (sdp : Text) :
    (tunedLines platform config sdp).filter (keepsLine platform allowedTypes) =
      ((((Sdp.sections sdp).map (List.filter (keepsLine platform allowedTypes))).filter
        (· ≠ [])).map (tuneSection platform config)).flatten := by
  have shape := isSections_sections sdp
  have clean : ∀ lines ∈ Sdp.sections sdp,
      tuneSection platform config (lines.filter (keepsLine platform allowedTypes)) =
        (tuneSection platform config lines).filter (keepsLine platform allowedTypes) := by
    have one : ∀ head tail, (∀ line ∈ tail, isMedia line = false) →
        tuneSection platform config ((head :: tail).filter (keepsLine platform allowedTypes)) =
          (tuneSection platform config (head :: tail)).filter (keepsLine platform allowedTypes) :=
      fun head tail => tuneSection_filter (fun _ => keepsLine_of_isMedia)
        (fun _ => keepsLine_of_isRtpmap) (fun _ => keepsLine_of_isFmtp)
        (fun _ => keepsLine_of_isInfo) (fun _ => keepsLine_of_isBandwidth)
    cases list : Sdp.sections sdp with
    | nil => exact List.forall_mem_nil _
    | cons first rest =>
        rw [list] at shape
        obtain ⟨⟨head, tail, rfl, plain⟩, later⟩ := shape
        rw [List.forall_mem_cons]
        constructor
        · exact one head tail plain
        · intro lines member
          obtain ⟨head, tail, rfl, -, plain⟩ := later lines member
          exact one head tail plain
  rw [tunedLines, List.filter_flatten, List.map_map]
  generalize Sdp.sections sdp = list at clean
  induction list with
  | nil => rfl
  | cons lines rest ih =>
      rw [List.forall_mem_cons] at clean
      rw [List.map_cons, List.flatten_cons, Function.comp_apply, ← clean.1, ih clean.2,
        List.map_cons]
      cases kept : lines.filter (keepsLine platform allowedTypes) with
      | nil =>
          rw [List.filter_cons_of_neg (by simp)]
          rfl
      | cons first more =>
          rw [List.filter_cons_of_pos (by simp), List.map_cons, List.flatten_cons]

theorem filter_eq (allowedTypes : List Text) (some : sdp ≠ []) :
    filterSdpCandidates platform sdp allowedTypes =
      joinLines ((splitlines sdp).filter (keepsLine platform allowedTypes)) := by
  rw [filterSdpCandidates, if_neg some]

theorem splitlines_filter (allowedTypes : List Text) (some : sdp ≠ [])
    (left : (splitlines sdp).filter (keepsLine platform allowedTypes) ≠ []) :
    splitlines (filterSdpCandidates platform sdp allowedTypes) =
      (splitlines sdp).filter (keepsLine platform allowedTypes) := by
  rw [filter_eq allowedTypes some]
  exact splitlines_joinLines left fun _ member =>
    isLine_of_mem_splitlines (List.mem_filter.mp member).1

theorem sections_filter (allowedTypes : List Text) (some : sdp ≠ [])
    (left : (splitlines sdp).filter (keepsLine platform allowedTypes) ≠ []) :
    Sdp.sections (filterSdpCandidates platform sdp allowedTypes) =
      ((Sdp.sections sdp).map (List.filter (keepsLine platform allowedTypes))).filter (· ≠ []) := by
  have shape : IsSections
      (((Sdp.sections sdp).map (List.filter (keepsLine platform allowedTypes))).filter (· ≠ [])) :=
    (isSections_sections sdp).filter fun _ => keepsLine_of_isMedia
  rw [sections_eq, splitlines_filter allowedTypes some left]
  conv_rhs => rw [← splitSections_flatten shape]
  rw [List.flatten_filter_ne_nil, ← List.filter_flatten, flatten_sections]

/-- Rewriting and filtering commute. -/
theorem filter_apply (allowedTypes : List Text) (sdp : Text) :
    filterSdpCandidates platform (applyVideoBitrateHintsToSdp platform config sdp) allowedTypes =
      applyVideoBitrateHintsToSdp platform config
        (filterSdpCandidates platform sdp allowedTypes) := by
  by_cases none : sdp = []
  · rw [none]
    rfl
  · have some : applyVideoBitrateHintsToSdp platform config sdp ≠ [] := by
      rw [apply_eq none]
      exact joinLines_ne_nil _
    have someFiltered : filterSdpCandidates platform sdp allowedTypes ≠ [] := by
      rw [filter_eq allowedTypes none]
      exact joinLines_ne_nil _
    have tuned : splitlines (applyVideoBitrateHintsToSdp platform config sdp) =
        tunedLines platform config sdp := by
      rw [apply_eq none, splitlines_joinLines (tunedLines_ne_nil none) tunedLines_plain]
    rw [filter_eq allowedTypes some, tuned, apply_eq someFiltered]
    by_cases left : (splitlines sdp).filter (keepsLine platform allowedTypes) = []
    · -- nothing is left of either text but the line break at the end
      have gone :
          (tunedLines platform config sdp).filter (keepsLine platform allowedTypes) = [] := by
        rw [← flatten_sections, List.filter_flatten, List.flatten_eq_nil_iff] at left
        have empty : ((Sdp.sections sdp).map (List.filter (keepsLine platform allowedTypes))).filter
            (· ≠ []) = [] := by
          rw [List.filter_eq_nil_iff]
          intro lines member
          simpa using left lines member
        rw [filter_tunedLines, empty]
        rfl
      rw [gone, filter_eq allowedTypes none, left]
      rfl
    · rw [filter_tunedLines, tunedLines, sections_filter allowedTypes none left]

/-- The rewriting changes only the bitrate hints of exactly the texts whose format parameters are
complete. -/
theorem changesOnlyHints_iff (platform : CasePlatform) (config : BitrateConfig) (sdp : Text) :
    ChangesOnlyHints platform config sdp ↔ FmtpComplete platform sdp := by
  constructor
  case mp =>
    intro changes lines member video line inside fmtp
    have kept := changes.sections
    rw [sections_apply, List.forall₂_map_right_iff, List.forall₂_same] at kept
    cases lines with
    | nil => cases video
    | cons head tail =>
        have found := (kept _ member).fmtp video line inside fmtp
        rw [List.head?_cons, Option.any_some] at video
        exact (fmtp_kept_iff video inside fmtp).mp found
  case mpr =>
    intro complete
    constructor
    case sections =>
      rw [sections_apply, List.forall₂_map_right_iff, List.forall₂_same]
      intro lines member
      constructor
      case other => exact tuneSection_other
      case lines => exact ordered_tuneSection lines
      case fmtp =>
        intro video line inside fmtp
        have found := complete lines member video line inside fmtp
        cases lines with
        | nil => cases video
        | cons head tail =>
            rw [List.head?_cons, Option.any_some] at video
            exact (fmtp_kept_iff video inside fmtp).mpr found
    case idempotent => exact apply_idem sdp
    case commutes => exact fun allowedTypes => filter_apply allowedTypes sdp
    case removes =>
      intro allowedTypes some
      exact ⟨filter_eq allowedTypes some, splitlines_filter allowedTypes some⟩

/-- Letters of the alphabet. -/
def asciiCase : CasePlatform where
  lower text := text.map fun point => if 65 ≤ point ∧ point ≤ 90 then point + 32 else point
  upper text := text.map fun point => if 97 ≤ point ∧ point ≤ 122 then point - 32 else point
  lower_min := by decide
  lower_start := by decide
  lower_max := by decide

/-- H.263 has a fixed payload, so its format parameters need no `rtpmap` line. -/
theorem fixed_payload_not_kept :
    ¬ChangesOnlyHints asciiCase ⟨1000000, 2000000, 4000000⟩
      (lit "m=video 9 UDP/TLS/RTP/SAVPF 34\r\na=fmtp:34 CIF=1\r\n") := by
  intro changes
  have first : List.Forall₂ (SectionKept asciiCase)
      [[lit "m=video 9 UDP/TLS/RTP/SAVPF 34", lit "a=fmtp:34 CIF=1"]]
      [[lit "m=video 9 UDP/TLS/RTP/SAVPF 34", lit "b=AS:4000", lit "b=TIAS:4000000"]] :=
    changes.sections
  rw [List.forall₂_cons] at first
  obtain ⟨kept, inside, fmtp, -⟩ := first.1.fmtp rfl (lit "a=fmtp:34 CIF=1")
    (List.mem_cons_of_mem _ List.mem_cons_self) rfl
  simp only [List.mem_cons, List.not_mem_nil, or_false] at inside
  rcases inside with rfl | rfl | rfl
  · cases fmtp
  · cases fmtp
  · cases fmtp

end Texts

end RemoteBrowser.Sdp
