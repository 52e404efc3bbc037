import RemoteBrowser.Worker.Sdp
import Mathlib.Data.List.Forall2
import Mathlib.Tactic.Common

/-!
# What the rewriting of session descriptions keeps

The sections of the rewritten text are the rewritten sections.  A rewritten section has its lines
back, apart from the bandwidth and the format parameters, and the format parameters of the payloads
that have an `rtpmap` line.
-/

namespace RemoteBrowser.Sdp

open Python

/-! ## Kinds of lines -/

section Kinds

variable {platform : CasePlatform} {allowedTypes : List Text} {line start other : Text}

theorem unique_start (apart : ¬ start <+: other ∧ ¬ other <+: start)
    (begins : start <+: line) : ¬ other <+: line := by
  intro second
  rcases List.prefix_or_prefix_of_prefix begins second with inside | inside
  · exact apart.1 inside
  · exact apart.2 inside

theorem isBandwidth_iff :
    isBandwidth line = true ↔ lit "b=AS:" <+: line ∨ lit "b=TIAS:" <+: line := by
  simp [isBandwidth]

theorem isFmtp_iff : isFmtp line = true ↔ lit "a=fmtp:" <+: line := decide_eq_true_iff

theorem isRtpmap_iff : isRtpmap line = true ↔ lit "a=rtpmap:" <+: line := decide_eq_true_iff

theorem isRtpmap_of_isFmtp (fmtp : isFmtp line = true) : isRtpmap line = false := by
  rw [isRtpmap, decide_eq_false_iff_not]
  exact unique_start (by decide) (isFmtp_iff.mp fmtp)

theorem isBandwidth_of_isRtpmap (rtpmap : isRtpmap line = true) : isBandwidth line = false := by
  rw [← Bool.not_eq_true, isBandwidth_iff, not_or]
  constructor
  · exact unique_start (by decide) (isRtpmap_iff.mp rtpmap)
  · exact unique_start (by decide) (isRtpmap_iff.mp rtpmap)

theorem isFmtp_of_isBandwidth (bandwidth : isBandwidth line = true) : isFmtp line = false := by
  rw [isFmtp, decide_eq_false_iff_not]
  rcases isBandwidth_iff.mp bandwidth with begins | begins
  · exact unique_start (by decide) begins
  · exact unique_start (by decide) begins

theorem isMedia_of_isFmtp (fmtp : isFmtp line = true) : isMedia line = false := by
  rw [isMedia, decide_eq_false_iff_not]
  exact unique_start (by decide) (isFmtp_iff.mp fmtp)

theorem isMedia_of_isBandwidth (bandwidth : isBandwidth line = true) : isMedia line = false := by
  rw [isMedia, decide_eq_false_iff_not]
  rcases isBandwidth_iff.mp bandwidth with begins | begins
  · exact unique_start (by decide) begins
  · exact unique_start (by decide) begins

theorem isMedia_of_isVideo (video : isVideo line = true) : isMedia line = true := by
  rw [isVideo, decide_eq_true_iff] at video
  rw [isMedia, decide_eq_true_iff]
  exact List.IsPrefix.trans (by decide) video

theorem isBandwidth_of_isMedia (media : isMedia line = true) : isBandwidth line = false := by
  cases bandwidth : isBandwidth line with
  | false => rfl
  | true => rw [isMedia_of_isBandwidth bandwidth] at media; cases media

theorem isFmtp_of_isMedia (media : isMedia line = true) : isFmtp line = false := by
  cases fmtp : isFmtp line with
  | false => rfl
  | true => rw [isMedia_of_isFmtp fmtp] at media; cases media

/-- A line that is not a candidate is kept. -/
theorem keepsLine_of_prefix
    (apart : ¬ start <+: lit "a=candidate:" ∧ ¬ lit "a=candidate:" <+: start)
    (begins : start <+: line) : keepsLine platform allowedTypes line = true := by
  rw [keepsLine, decide_eq_false (unique_start apart begins)]
  rfl

theorem keepsLine_of_isFmtp (fmtp : isFmtp line = true) :
    keepsLine platform allowedTypes line = true :=
  keepsLine_of_prefix (by decide) (isFmtp_iff.mp fmtp)

theorem keepsLine_of_isRtpmap (rtpmap : isRtpmap line = true) :
    keepsLine platform allowedTypes line = true :=
  keepsLine_of_prefix (by decide) (isRtpmap_iff.mp rtpmap)

theorem keepsLine_of_isMedia (media : isMedia line = true) :
    keepsLine platform allowedTypes line = true :=
  keepsLine_of_prefix (by decide) (decide_eq_true_iff.mp media)

theorem keepsLine_of_isBandwidth (bandwidth : isBandwidth line = true) :
    keepsLine platform allowedTypes line = true := by
  rcases isBandwidth_iff.mp bandwidth with begins | begins
  · exact keepsLine_of_prefix (by decide) begins
  · exact keepsLine_of_prefix (by decide) begins

theorem keepsLine_of_isInfo (info : isInfo line = true) :
    keepsLine platform allowedTypes line = true := by
  rw [isInfo, Bool.or_eq_true, decide_eq_true_iff, decide_eq_true_iff] at info
  rcases info with begins | begins
  · exact keepsLine_of_prefix (by decide) begins
  · exact keepsLine_of_prefix (by decide) begins

end Kinds

/-! ## The scan of a section -/

section Scanning

variable {platform : CasePlatform} {lines : List Text} {payload : Text}

/-- The line is neither bandwidth nor format parameters. -/
def isOrdered (line : Text) : Bool := !isBandwidth line && !isFmtp line

def isFmtpOf (payload line : Text) : Bool := isFmtp line && payload == fmtpPayload line

def isRtpmapOf (payload line : Text) : Bool := isRtpmap line && payload == rtpmapPayload line

/-- The format parameters of a payload, those of its last line. -/
def lastFmtp (lines : List Text) (payload : Text) : Option Text :=
  ((lines.filter (isFmtpOf payload)).getLast?).map fmtpParams

def lastCodec (platform : CasePlatform) (lines : List Text) (payload : Text) : Option Text :=
  ((lines.filter (isRtpmapOf payload)).getLast?).map (rtpmapCodec platform)

theorem lastFmtp_concat (line : Text) :
    lastFmtp (lines ++ [line]) payload =
      if isFmtpOf payload line then some (fmtpParams line) else lastFmtp lines payload := by
  cases found : isFmtpOf payload line <;> simp [lastFmtp, found]

theorem lastCodec_concat (line : Text) :
    lastCodec platform (lines ++ [line]) payload =
      if isRtpmapOf payload line then some (rtpmapCodec platform line)
      else lastCodec platform lines payload := by
  cases found : isRtpmapOf payload line <;> simp [lastCodec, found]

/-- What the scan of a section collects. -/
theorem scanSection_eq (platform : CasePlatform) (lines : List Text) :
    scanSection platform lines =
      ⟨lastCodec platform lines, lastFmtp lines, lines.filter isOrdered⟩ := by
  induction lines using List.reverseRecOn with
  | nil => rfl
  | append_singleton lines line ih =>
      rw [scanSection, List.foldl_append, ← scanSection, ih, List.foldl_cons, List.foldl_nil,
        List.filter_append]
      have fmtps := funext fun payload => @lastFmtp_concat lines payload line
      have codecs := funext fun payload => @lastCodec_concat platform lines payload line
      rw [fmtps, codecs, scanLine]
      cases bandwidth : isBandwidth line with
      | true =>
          have fmtp := isFmtp_of_isBandwidth bandwidth
          have rtpmap : isRtpmap line = false := by
            cases rtpmap : isRtpmap line with
            | false => rfl
            | true => rw [isBandwidth_of_isRtpmap rtpmap] at bandwidth; cases bandwidth
          simp [isOrdered, isFmtpOf, isRtpmapOf, bandwidth, fmtp, rtpmap]
      | false =>
          cases rtpmap : isRtpmap line with
          | true =>
              have fmtp : isFmtp line = false := by
                cases fmtp : isFmtp line with
                | false => rfl
                | true => rw [isRtpmap_of_isFmtp fmtp] at rtpmap; cases rtpmap
              simp [isOrdered, isFmtpOf, isRtpmapOf, bandwidth, fmtp, rtpmap]
          | false =>
              cases fmtp : isFmtp line with
              | true => simp [isOrdered, isFmtpOf, isRtpmapOf, bandwidth, fmtp, rtpmap]
              | false => simp [isOrdered, isFmtpOf, isRtpmapOf, bandwidth, fmtp, rtpmap]

end Scanning

/-! ## The bandwidth lines -/

section Bandwidth

variable {config : BitrateConfig} {head : Text} {tail : List Text}

/-- The ordered lines with the bandwidth lines. -/
def withBandwidth (config : BitrateConfig) (ordered : List Text) : List Text :=
  ordered.take (insertAt ordered) ++ bandwidthLines config ++ ordered.drop (insertAt ordered)

theorem insertAt_cons (head : Text) (tail : List Text) :
    insertAt (head :: tail) = 1 + (tail.rdropWhile fun line => !isInfo line).length := by
  induction tail using List.reverseRecOn with
  | nil => rfl
  | append_singleton tail line ih =>
      rw [insertAt, List.tail_cons] at ih
      rw [insertAt, List.tail_cons, List.zipIdx_append, List.foldl_append, ih,
        List.rdropWhile_concat]
      cases info : isInfo line with
      | true => simp [info]; omega
      | false => simp [info]

theorem append_rtakeWhile (tail : List Text) :
    (tail.rdropWhile fun line => !isInfo line) ++ (tail.rtakeWhile fun line => !isInfo line) =
      tail :=
  List.rdropWhile_append_rtakeWhile

/-- The bandwidth lines stand behind the last `i=` or `c=` line. -/
theorem withBandwidth_cons (config : BitrateConfig) (head : Text) (tail : List Text) :
    withBandwidth config (head :: tail) =
      head :: (tail.rdropWhile fun line => !isInfo line) ++ bandwidthLines config ++
        tail.rtakeWhile fun line => !isInfo line := by
  have split := append_rtakeWhile tail
  have start := (List.prefix_iff_eq_take.mp ⟨_, split⟩).symm
  have whole := List.take_append_drop (tail.rdropWhile fun line => !isInfo line).length tail
  rw [start] at whole
  have ending := List.append_cancel_left (whole.trans split.symm)
  rw [withBandwidth, insertAt_cons, Nat.add_comm, List.take_succ_cons, List.drop_succ_cons, start,
    ending]

theorem mem_bandwidthLines {line : Text} (member : line ∈ bandwidthLines config) :
    isBandwidth line = true := by
  rw [isBandwidth_iff]
  rcases List.mem_cons.mp member with rfl | member
  · exact .inl (List.prefix_append _ _)
  · rw [List.mem_singleton] at member
    rw [member]
    exact .inr (List.prefix_append _ _)

/-- Lines that no bandwidth line passes are found as they were. -/
theorem filter_withBandwidth {keep : Text → Bool}
    (drops : ∀ line, isBandwidth line = true → keep line = false) :
    (withBandwidth config (head :: tail)).filter keep = (head :: tail).filter keep := by
  have split := append_rtakeWhile tail
  have none : (bandwidthLines config).filter keep = [] := by
    rw [List.filter_eq_nil_iff]
    intro line member
    rw [drops line (mem_bandwidthLines member)]
    exact Bool.false_ne_true
  rw [withBandwidth_cons, List.filter_append, List.filter_append, none, List.append_nil,
    ← List.filter_append, List.cons_append, split]

theorem mem_withBandwidth {line : Text} :
    line ∈ withBandwidth config (head :: tail) ↔
      line ∈ bandwidthLines config ∨ line ∈ head :: tail := by
  have split := append_rtakeWhile tail
  rw [withBandwidth_cons]
  conv_rhs => rw [← split]
  simp only [List.cons_append, List.mem_cons, List.mem_append]
  tauto

theorem filter_rdropWhile {drop keep : Text → Bool} (keeps : ∀ line, drop line = false → keep line)
    (lines : List Text) :
    (lines.filter keep).rdropWhile drop = (lines.rdropWhile drop).filter keep := by
  induction lines using List.reverseRecOn with
  | nil => rfl
  | append_singleton lines line ih =>
      rw [List.filter_append, List.rdropWhile_concat]
      cases dropped : drop line with
      | true => cases kept : keep line <;> simp [kept, dropped, ih]
      | false => simp [keeps line dropped, dropped]

/-- The bandwidth lines of the lines that are kept. -/
theorem withBandwidth_filter {keep : Text → Bool} (keepsHead : keep head = true)
    (keepsInfo : ∀ line, isInfo line = true → keep line)
    (keepsBandwidth : ∀ line, isBandwidth line = true → keep line) :
    withBandwidth config ((head :: tail).filter keep) =
      (withBandwidth config (head :: tail)).filter keep := by
  have keeps : ∀ line, (!isInfo line) = false → keep line := by
    intro line info
    exact keepsInfo line (by simpa using info)
  have start := filter_rdropWhile keeps tail
  have ending : (tail.filter keep).rtakeWhile (fun line => !isInfo line) =
      (tail.rtakeWhile fun line => !isInfo line).filter keep := by
    have split := append_rtakeWhile tail
    have whole := append_rtakeWhile (tail.filter keep)
    conv_rhs at whole => rw [← split, List.filter_append]
    rw [start] at whole
    exact List.append_cancel_left whole
  have all : (bandwidthLines config).filter keep = bandwidthLines config := by
    rw [List.filter_eq_self]
    exact fun line member => keepsBandwidth line (mem_bandwidthLines member)
  rw [List.filter_cons_of_pos keepsHead, withBandwidth_cons, withBandwidth_cons, start, ending,
    List.filter_append, List.filter_append, all, List.filter_cons_of_pos keepsHead]

end Bandwidth

/-! ## The lines put together -/

section Rebuilding

variable {params : Text → Option Text} {inserted lines : List Text} {payload : Text}

/-- The payload of a line with its format parameters. -/
theorem isFmtp_fmtpLine (payload found : Text) : isFmtp (fmtpLine payload found) = true := by
  rw [isFmtp_iff, fmtpLine, List.append_assoc]
  exact List.prefix_append _ _

theorem isStripped_payload (line : Text) : strip (rtpmapPayload line) = rtpmapPayload line :=
  strip_eq_self (isStripped_strip _)

theorem space_not_mem_rtpmapPayload (line : Text) : 32 ∉ rtpmapPayload line := by
  intro member
  have inside := mem_of_mem_strip member
  simpa using List.mem_takeWhile_imp inside

theorem before_append {separator : ℕ} {text rest : Text} (clean : separator ∉ text) :
    before separator (text ++ separator :: rest) = text := by
  rw [before, List.takeWhile_append_of_pos]
  · simp
  · intro point member
    rw [decide_eq_true_iff]
    rintro rfl
    exact clean member

theorem after_append {separator : ℕ} {text rest : Text} (clean : separator ∉ text) :
    after separator (text ++ separator :: rest) = some rest := by
  rw [after, List.dropWhile_append_of_pos]
  · simp
  · intro point member
    rw [decide_eq_true_iff]
    rintro rfl
    exact clean member

theorem fmtpPayload_fmtpLine (line found : Text) :
    fmtpPayload (fmtpLine (rtpmapPayload line) found) = rtpmapPayload line := by
  rw [fmtpPayload, payloadAfter, fmtpLine, List.append_assoc, List.drop_left,
    before_append (space_not_mem_rtpmapPayload line), isStripped_payload]

theorem fmtpParams_fmtpLine (line found : Text) :
    fmtpParams (fmtpLine (rtpmapPayload line) found) = found := by
  have clean : 32 ∉ lit "a=fmtp:" ++ rtpmapPayload line := by
    rw [List.mem_append]
    rintro (member | member)
    · exact absurd member (by decide)
    · exact space_not_mem_rtpmapPayload line member
  rw [fmtpParams, fmtpLine, after_append clean]
  rfl

/-- The lines that were there are found again. -/
theorem filter_rebuild {keep : Text → Bool}
    (drops : ∀ line, isFmtp line = true → keep line = false) (inserted lines : List Text) :
    (rebuild params inserted lines).filter keep = lines.filter keep := by
  induction lines generalizing inserted with
  | nil => rfl
  | cons line rest ih =>
      rw [rebuild]
      split
      case isFalse => rw [List.filter_cons, List.filter_cons, ih]
      case isTrue =>
        split
        case h_1 found _ =>
          have dropped := drops _ (isFmtp_fmtpLine (rtpmapPayload line) found)
          rw [List.filter_cons, List.filter_cons, List.filter_cons, dropped,
            if_neg Bool.false_ne_true, ih]
        case h_2 => rw [List.filter_cons, List.filter_cons, ih]

/-- The format parameters of a payload stand behind its first `rtpmap` line. -/
theorem fmtp_rebuild (plain : ∀ line ∈ lines, isFmtp line = false) :
    (rebuild params inserted lines).filter (isFmtpOf payload) =
      if payload ∉ inserted ∧ lines.any (isRtpmapOf payload) then
        (params payload).toList.map (fmtpLine payload)
      else [] := by
  induction lines generalizing inserted with
  | nil => simp [rebuild]
  | cons line rest ih =>
      rw [List.forall_mem_cons] at plain
      have skipped : isFmtpOf payload line = false := by rw [isFmtpOf, plain.1, Bool.false_and]
      rw [rebuild]
      split
      case isFalse other =>
        rw [List.filter_cons, skipped, if_neg Bool.false_ne_true, ih plain.2]
        by_cases known : payload ∈ inserted
        · simp [known]
        · have notThis : isRtpmapOf payload line = false := by
            cases rtpmap : isRtpmapOf payload line with
            | false => rfl
            | true =>
                rw [isRtpmapOf, Bool.and_eq_true, beq_iff_eq] at rtpmap
                exact absurd ⟨rtpmap.1, rtpmap.2 ▸ known⟩ other
          rw [List.any_cons, notThis, Bool.false_or]
      case isTrue first =>
        split
        case h_1 found known =>
          rw [List.filter_cons, skipped, if_neg Bool.false_ne_true, List.filter_cons, ih plain.2]
          by_cases same : payload = rtpmapPayload line
          · have this : isFmtpOf payload (fmtpLine (rtpmapPayload line) found) = true := by
              rw [isFmtpOf, isFmtp_fmtpLine, fmtpPayload_fmtpLine, same, beq_self_eq_true]
              rfl
            have rtpmap : isRtpmapOf payload line = true := by
              rw [isRtpmapOf, first.1, same, beq_self_eq_true]
              rfl
            rw [if_pos this, List.any_cons, rtpmap, same, known]
            simp [first.2]
          · have notThis : isFmtpOf payload (fmtpLine (rtpmapPayload line) found) = false := by
              rw [isFmtpOf, fmtpPayload_fmtpLine, beq_eq_false_iff_ne.mpr same, Bool.and_false]
            have rtpmap : isRtpmapOf payload line = false := by
              rw [isRtpmapOf, beq_eq_false_iff_ne.mpr same, Bool.and_false]
            simp [notThis, rtpmap, same]
        case h_2 unknown =>
          rw [List.filter_cons, skipped, if_neg Bool.false_ne_true, ih plain.2]
          by_cases same : payload = rtpmapPayload line
          · rw [same, unknown]
            simp
          · have rtpmap : isRtpmapOf payload line = false := by
              rw [isRtpmapOf, beq_eq_false_iff_ne.mpr same, Bool.and_false]
            rw [List.any_cons, rtpmap, Bool.false_or]

/-- Only the parameters of the payloads that occur matter. -/
theorem rebuild_congr {second : Text → Option Text} (inserted : List Text)
    (agree : ∀ line ∈ lines, isRtpmap line = true →
      params (rtpmapPayload line) = second (rtpmapPayload line)) :
    rebuild params inserted lines = rebuild second inserted lines := by
  induction lines generalizing inserted with
  | nil => rfl
  | cons line rest ih =>
      rw [List.forall_mem_cons] at agree
      rw [rebuild, rebuild]
      split
      case isFalse => rw [ih _ agree.2]
      case isTrue first =>
        rw [agree.1 first.1]
        split
        case h_1 => rw [ih _ agree.2]
        case h_2 => rw [ih _ agree.2]

theorem rebuild_filter {keep : Text → Bool} (inserted lines : List Text)
    (keepsRtpmap : ∀ line, isRtpmap line = true → keep line)
    (keepsFmtp : ∀ line, isFmtp line = true → keep line) :
    rebuild params inserted (lines.filter keep) = (rebuild params inserted lines).filter keep := by
  induction lines generalizing inserted with
  | nil => rfl
  | cons line rest ih =>
      rw [rebuild]
      split
      case isFalse other =>
        cases kept : keep line with
        | true =>
            rw [List.filter_cons_of_pos kept, rebuild, if_neg other, ih,
              List.filter_cons_of_pos kept]
        | false =>
            have gone : ¬ keep line = true := by simp [kept]
            rw [List.filter_cons_of_neg gone, ih, List.filter_cons_of_neg gone]
      case isTrue first =>
        have kept := keepsRtpmap line first.1
        rw [List.filter_cons_of_pos kept, rebuild, if_pos first]
        split
        case h_1 found known =>
          have also := keepsFmtp _ (isFmtp_fmtpLine (rtpmapPayload line) found)
          rw [List.filter_cons_of_pos kept, List.filter_cons_of_pos also, ih]
        case h_2 unknown =>
          rw [List.filter_cons_of_pos kept, ih]

theorem mem_rebuild {line : Text} (member : line ∈ rebuild params inserted lines) :
    line ∈ lines ∨
      ∃ rtpmap ∈ lines, ∃ found, params (rtpmapPayload rtpmap) = some found ∧
        line = fmtpLine (rtpmapPayload rtpmap) found := by
  induction lines generalizing inserted with
  | nil => cases member
  | cons next rest ih =>
      have later : ∀ {inserted}, line ∈ rebuild params inserted rest →
          line ∈ next :: rest ∨ ∃ rtpmap ∈ next :: rest, ∃ found,
            params (rtpmapPayload rtpmap) = some found ∧
              line = fmtpLine (rtpmapPayload rtpmap) found := by
        intro inserted inside
        rcases ih inside with kept | ⟨rtpmap, listed, found⟩
        · exact .inl (List.mem_cons_of_mem _ kept)
        · exact .inr ⟨rtpmap, List.mem_cons_of_mem _ listed, found⟩
      rw [rebuild] at member
      split at member
      case isFalse =>
        rcases List.mem_cons.mp member with rfl | inside
        · exact .inl List.mem_cons_self
        · exact later inside
      case isTrue =>
        split at member
        case h_1 found known =>
          rcases List.mem_cons.mp member with rfl | inside
          · exact .inl List.mem_cons_self
          rcases List.mem_cons.mp inside with rfl | inside
          · exact .inr ⟨next, List.mem_cons_self, found, known, rfl⟩
          · exact later inside
        case h_2 =>
          rcases List.mem_cons.mp member with rfl | inside
          · exact .inl List.mem_cons_self
          · exact later inside

theorem head_rebuild (params : Text → Option Text) (inserted : List Text) (line : Text)
    (rest : List Text) : ∃ later, rebuild params inserted (line :: rest) = line :: later := by
  rw [rebuild]
  split
  case isFalse => exact ⟨_, rfl⟩
  case isTrue =>
    split
    case h_1 => exact ⟨_, rfl⟩
    case h_2 => exact ⟨_, rfl⟩

end Rebuilding

/-! ## One section -/

section Tuning

variable {platform : CasePlatform} {config : BitrateConfig} {head : Text} {lines tail : List Text}
  {payload : Text}

theorem filter_isRtpmapOf {keep : Text → Bool}
    (keeps : ∀ line, isRtpmap line = true → keep line = true) (lines : List Text) (payload : Text) :
    (lines.filter keep).filter (isRtpmapOf payload) = lines.filter (isRtpmapOf payload) := by
  rw [List.filter_filter]
  apply List.filter_congr
  intro line _
  cases rtpmap : isRtpmap line with
  | true => rw [keeps line rtpmap, Bool.and_true]
  | false => rw [isRtpmapOf, rtpmap, Bool.false_and, Bool.false_and]

theorem isOrdered_of_isRtpmap {line : Text} (rtpmap : isRtpmap line = true) :
    isOrdered line = true := by
  have fmtp : isFmtp line = false := by
    cases fmtp : isFmtp line with
    | false => rfl
    | true => rw [isRtpmap_of_isFmtp fmtp] at rtpmap; cases rtpmap
  rw [isOrdered, isBandwidth_of_isRtpmap rtpmap, fmtp]
  rfl

theorem isOrdered_of_isMedia {line : Text} (media : isMedia line = true) :
    isOrdered line = true := by
  rw [isOrdered, isBandwidth_of_isMedia media, isFmtp_of_isMedia media]
  rfl

/-- The parameters of the payloads of a section. -/
def sectionParams (platform : CasePlatform) (config : BitrateConfig) (lines : List Text)
    (payload : Text) : Option Text :=
  tunedParams platform config (scanSection platform lines) payload

theorem sectionParams_eq (platform : CasePlatform) (config : BitrateConfig) (lines : List Text)
    (payload : Text) :
    sectionParams platform config lines payload =
      if lastCodec platform lines payload = some (lit "H264") ∨
          lastCodec platform lines payload = some (lit "VP8") then
        some (bitrateHints platform config ((lastFmtp lines payload).getD []))
      else lastFmtp lines payload := by
  rw [sectionParams, scanSection_eq, tunedParams]

/-- A section that is not video. -/
theorem tuneSection_other (other : lines.head?.any isVideo = false) :
    tuneSection platform config lines = lines := by
  rw [tuneSection, other, if_neg Bool.false_ne_true]

theorem tuneSection_video (video : isVideo head = true) :
    tuneSection platform config (head :: tail) =
      rebuild (sectionParams platform config (head :: tail)) []
        (withBandwidth config (head :: tail.filter isOrdered)) := by
  have ordered : (scanSection platform (head :: tail)).orderedLines =
      head :: tail.filter isOrdered := by
    rw [scanSection_eq, List.filter_cons_of_pos (isOrdered_of_isMedia (isMedia_of_isVideo video))]
  have unfolded : tuneSection platform config (head :: tail) =
      rebuild (sectionParams platform config (head :: tail)) []
        (withBandwidth config (scanSection platform (head :: tail)).orderedLines) := by
    rw [tuneSection, List.head?_cons, Option.any_some, if_pos video]
    rfl
  rw [unfolded, ordered]

theorem isFmtp_of_mem_withBandwidth {line : Text} (video : isVideo head = true)
    (member : line ∈ withBandwidth config (head :: tail.filter isOrdered)) :
    isFmtp line = false := by
  rcases mem_withBandwidth.mp member with bandwidth | kept
  · exact isFmtp_of_isBandwidth (mem_bandwidthLines bandwidth)
  · rcases List.mem_cons.mp kept with rfl | kept
    · exact isFmtp_of_isMedia (isMedia_of_isVideo video)
    · have ordered := (List.mem_filter.mp kept).2
      rw [isOrdered, Bool.and_eq_true, Bool.not_eq_true', Bool.not_eq_true'] at ordered
      exact ordered.2

/-- The lines besides bandwidth and format parameters. -/
theorem ordered_tuneSection (lines : List Text) :
    (tuneSection platform config lines).filter isOrdered = lines.filter isOrdered := by
  cases video : lines.head?.any isVideo with
  | false => rw [tuneSection_other video]
  | true =>
      cases lines with
      | nil => cases video
      | cons head tail =>
          rw [List.head?_cons, Option.any_some] at video
          have dropsFmtp : ∀ line, isFmtp line = true → isOrdered line = false := by
            intro line fmtp
            rw [isOrdered, fmtp, Bool.not_true, Bool.and_false]
          have dropsBandwidth : ∀ line, isBandwidth line = true → isOrdered line = false := by
            intro line bandwidth
            rw [isOrdered, bandwidth, Bool.not_true, Bool.false_and]
          rw [tuneSection_video video, filter_rebuild dropsFmtp,
            filter_withBandwidth dropsBandwidth, List.filter_cons, List.filter_cons,
            List.filter_filter]
          simp

theorem rtpmap_tuneSection (lines : List Text) (payload : Text) :
    (tuneSection platform config lines).filter (isRtpmapOf payload) =
      lines.filter (isRtpmapOf payload) := by
  rw [← filter_isRtpmapOf (fun _ => isOrdered_of_isRtpmap), ordered_tuneSection,
    filter_isRtpmapOf (fun _ => isOrdered_of_isRtpmap)]

theorem any_eq_filter (lines : List Text) (payload : Text) :
    lines.any (isRtpmapOf payload) = !(lines.filter (isRtpmapOf payload)).isEmpty := by
  induction lines with
  | nil => rfl
  | cons line rest ih =>
      rw [List.any_cons, List.filter_cons, ih]
      cases isRtpmapOf payload line <;> rfl

/-- The format parameters of a rewritten section. -/
theorem fmtp_tuneSection (video : isVideo head = true) (payload : Text) :
    (tuneSection platform config (head :: tail)).filter (isFmtpOf payload) =
      if (head :: tail).any (isRtpmapOf payload) then
        (sectionParams platform config (head :: tail) payload).toList.map (fmtpLine payload)
      else [] := by
  have same : (withBandwidth config (head :: tail.filter isOrdered)).any (isRtpmapOf payload) =
      (head :: tail).any (isRtpmapOf payload) := by
    rw [any_eq_filter, any_eq_filter, ← @rtpmap_tuneSection platform config (head :: tail),
      tuneSection_video video, filter_rebuild]
    intro line fmtp
    rw [isRtpmapOf, isRtpmap_of_isFmtp fmtp, Bool.false_and]
  rw [tuneSection_video video, fmtp_rebuild fun line => isFmtp_of_mem_withBandwidth video, same]
  simp

theorem head_tuneSection (video : isVideo head = true) :
    ∃ later, tuneSection platform config (head :: tail) = head :: later := by
  rw [tuneSection_video video, withBandwidth_cons, List.cons_append, List.cons_append]
  exact head_rebuild _ _ _ _

theorem lastCodec_tuneSection (lines : List Text) (payload : Text) :
    lastCodec platform (tuneSection platform config lines) payload =
      lastCodec platform lines payload := by
  rw [lastCodec, rtpmap_tuneSection, lastCodec]

theorem lastFmtp_tuneSection (video : isVideo head = true)
    (rtpmap : (head :: tail).any (isRtpmapOf payload)) :
    lastFmtp (tuneSection platform config (head :: tail)) payload =
      sectionParams platform config (head :: tail) payload := by
  obtain ⟨line, -, found⟩ := List.any_eq_true.mp rtpmap
  rw [isRtpmapOf, Bool.and_eq_true, beq_iff_eq] at found
  rw [lastFmtp, fmtp_tuneSection video, if_pos rtpmap, found.2]
  cases sectionParams platform config (head :: tail) (rtpmapPayload line) with
  | none => rfl
  | some params => simp [fmtpParams_fmtpLine]

/-- The parameters of a rewritten section are the same ones. -/
theorem sectionParams_tuneSection (video : isVideo head = true)
    (rtpmap : (head :: tail).any (isRtpmapOf payload)) :
    sectionParams platform config (tuneSection platform config (head :: tail)) payload =
      sectionParams platform config (head :: tail) payload := by
  rw [sectionParams_eq, lastCodec_tuneSection, lastFmtp_tuneSection video rtpmap]
  split
  case isTrue codec =>
    rw [sectionParams_eq, if_pos codec, Option.getD_some, bitrateHints_idem]
  case isFalse => rfl

/-- Rewriting a section again changes nothing. -/
theorem tuneSection_idem (lines : List Text) :
    tuneSection platform config (tuneSection platform config lines) =
      tuneSection platform config lines := by
  cases video : lines.head?.any isVideo with
  | false => rw [tuneSection_other video, tuneSection_other video]
  | true =>
      cases lines with
      | nil => cases video
      | cons head tail =>
          rw [List.head?_cons, Option.any_some] at video
          have ordered := isOrdered_of_isMedia (isMedia_of_isVideo video)
          obtain ⟨later, shape⟩ := @head_tuneSection platform config head tail video
          have kept : later.filter isOrdered = tail.filter isOrdered := by
            have same := @ordered_tuneSection platform config (head :: tail)
            rw [shape, List.filter_cons_of_pos ordered, List.filter_cons_of_pos ordered] at same
            exact List.tail_eq_of_cons_eq same
          have params : ∀ line ∈ withBandwidth config (head :: tail.filter isOrdered),
              isRtpmap line = true →
                sectionParams platform config (head :: later) (rtpmapPayload line) =
                  sectionParams platform config (head :: tail) (rtpmapPayload line) := by
            intro line member rtpmap
            rw [← shape]
            apply sectionParams_tuneSection video
            rw [List.any_eq_true]
            rcases mem_withBandwidth.mp member with bandwidth | listed
            · have never := isBandwidth_of_isRtpmap rtpmap
              rw [mem_bandwidthLines bandwidth] at never
              cases never
            · have inside : line ∈ head :: tail := by
                rcases List.mem_cons.mp listed with rfl | listed
                · exact List.mem_cons_self
                · exact List.mem_cons_of_mem _ (List.mem_filter.mp listed).1
              exact ⟨line, inside, by simp [isRtpmapOf, rtpmap]⟩
          conv_lhs => rw [shape]
          rw [tuneSection_video video, kept, rebuild_congr [] params, tuneSection_video video]

/-- Rewriting and filtering a section commute. -/
theorem tuneSection_filter {keep : Text → Bool}
    (keepsMedia : ∀ line, isMedia line = true → keep line)
    (keepsRtpmap : ∀ line, isRtpmap line = true → keep line)
    (keepsFmtp : ∀ line, isFmtp line = true → keep line)
    (keepsInfo : ∀ line, isInfo line = true → keep line)
    (keepsBandwidth : ∀ line, isBandwidth line = true → keep line)
    (clean : ∀ line ∈ tail, isMedia line = false) :
    tuneSection platform config ((head :: tail).filter keep) =
      (tuneSection platform config (head :: tail)).filter keep := by
  cases video : isVideo head with
  | true =>
      have keeps := keepsMedia head (isMedia_of_isVideo video)
      have params : sectionParams platform config (head :: tail.filter keep) =
          sectionParams platform config (head :: tail) := by
        funext payload
        have fmtps : ((head :: tail).filter keep).filter (isFmtpOf payload) =
            (head :: tail).filter (isFmtpOf payload) := by
          rw [List.filter_filter]
          apply List.filter_congr
          intro line _
          cases fmtp : isFmtp line with
          | true => rw [keepsFmtp line fmtp, Bool.and_true]
          | false => rw [isFmtpOf, fmtp, Bool.false_and, Bool.false_and]
        have codecs := filter_isRtpmapOf keepsRtpmap (head :: tail) payload
        rw [← List.filter_cons_of_pos keeps, sectionParams_eq, sectionParams_eq, lastCodec,
          lastFmtp, fmtps, codecs, lastCodec, lastFmtp]
      have ordered : (tail.filter keep).filter isOrdered = (tail.filter isOrdered).filter keep := by
        rw [List.filter_filter, List.filter_filter]
        apply List.filter_congr
        intro line _
        rw [Bool.and_comm]
      rw [List.filter_cons_of_pos keeps, tuneSection_video video, tuneSection_video video, params,
        ordered, ← rebuild_filter _ _ keepsRtpmap keepsFmtp,
        ← withBandwidth_filter keeps keepsInfo keepsBandwidth, List.filter_cons_of_pos keeps]
  | false =>
      have other : ((head :: tail).filter keep).head?.any isVideo = false := by
        have none : ∀ line ∈ (head :: tail).filter keep, isVideo line = false := by
          intro line member
          rcases List.mem_cons.mp (List.mem_filter.mp member).1 with rfl | later
          · exact video
          · cases wrong : isVideo line with
            | false => rfl
            | true =>
                have never := clean line later
                rw [isMedia_of_isVideo wrong] at never
                cases never
        cases first : ((head :: tail).filter keep).head? with
        | none => rfl
        | some line => exact none line (List.mem_of_head? first)
      rw [tuneSection_other other, @tuneSection_other platform config (head :: tail) video]

end Tuning

end RemoteBrowser.Sdp
