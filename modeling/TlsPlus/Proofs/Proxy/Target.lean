/-
Where a handshake goes.

The WebSocket path rewrites the scheme of its target before the URL is parsed.
`NormalText` is the text it parses: the remainder after the first `://` is kept,
and the scheme becomes `http` or `https` by whether it asks for TLS.  The text is
a normal form, it is the target itself where the plain path accepts one, and it is
what every handshake sent upstream is sent to.
-/
import TlsPlus.Proofs.Proxy.Service

namespace TlsPlus

open Text

variable {Client : Type} {parseUri : Str → Except Str Uri} {target text : Str}

/-! ### The normal text -/

/-- `http` or `ws`, in any letter case. -/
def IsClear (scheme : Str) : Prop :=
  eqIgnoreAsciiCase scheme "http" = true ∨ eqIgnoreAsciiCase scheme "ws" = true

/-- `https` or `wss`, in any letter case. -/
def IsSecure (scheme : Str) : Prop :=
  eqIgnoreAsciiCase scheme "https" = true ∨ eqIgnoreAsciiCase scheme "wss" = true

/-- The URL text of a target: its scheme in one of two spellings, and what follows unchanged. -/
def NormalText (target text : Str) : Prop :=
  ∃ scheme rest, SplitsAt "://" target scheme rest ∧
    ((IsClear scheme ∧ text = "http://" ++ rest) ∨ (IsSecure scheme ∧ text = "https://" ++ rest))

/-- No scheme asks for both. -/
theorem not_isClear_of_isSecure {scheme : Str} (h : IsSecure scheme) : ¬IsClear scheme := by
  intro hclear
  unfold IsSecure IsClear at *
  simp only [eqIgnoreAsciiCase_iff] at h hclear
  rcases h with h | h <;> rcases hclear with hclear | hclear <;>
    exact absurd (h.symm.trans hclear) (by decide)

/-- The text of a target by its scheme. -/
theorem normalText_iff {scheme rest : Str} (hsplit : SplitsAt "://" target scheme rest) :
    NormalText target text ↔
      (IsClear scheme ∧ text = "http://" ++ rest) ∨
        (IsSecure scheme ∧ text = "https://" ++ rest) := by
  refine ⟨fun h => ?_, fun h => ⟨scheme, rest, hsplit, h⟩⟩
  obtain ⟨scheme', rest', hsplit', htext⟩ := h
  obtain ⟨rfl, rfl⟩ := hsplit.unique hsplit'
  exact htext

theorem NormalText.unique {text' : Str} (h : NormalText target text)
    (h' : NormalText target text') : text = text' := by
  obtain ⟨scheme, rest, hsplit, htext⟩ := h
  have htext' := (normalText_iff hsplit).mp h'
  rcases htext with ⟨hclear, rfl⟩ | ⟨hsecure, rfl⟩
  · rcases htext' with ⟨-, rfl⟩ | ⟨hsecure, -⟩
    · rfl
    · exact absurd hclear (not_isClear_of_isSecure hsecure)
  · rcases htext' with ⟨hclear, -⟩ | ⟨-, rfl⟩
    · exact absurd hclear (not_isClear_of_isSecure hsecure)
    · rfl

theorem splitsAt_http (rest : Str) : SplitsAt "://" ("http://" ++ rest) "http" rest :=
  splitOnce_eq_some_iff.mp rfl

theorem splitsAt_https (rest : Str) : SplitsAt "://" ("https://" ++ rest) "https" rest :=
  splitOnce_eq_some_iff.mp rfl

/-- **Normalising twice is normalising once.** -/
theorem NormalText.idem (h : NormalText target text) : NormalText text text := by
  obtain ⟨scheme, rest, -, ⟨-, rfl⟩ | ⟨-, rfl⟩⟩ := h
  · exact ⟨"http", rest, splitsAt_http rest, Or.inl ⟨Or.inl (by decide), rfl⟩⟩
  · exact ⟨"https", rest, splitsAt_https rest, Or.inr ⟨Or.inl (by decide), rfl⟩⟩

/-- A target whose scheme is spelled `http` or `https` is its own text. -/
theorem normalText_self {scheme rest : Str} (hsplit : SplitsAt "://" target scheme rest)
    (hscheme : scheme = ("http" : Str) ∨ scheme = ("https" : Str)) : NormalText target target := by
  rcases hscheme with rfl | rfl
  · exact ⟨_, rest, hsplit, Or.inl ⟨Or.inl (by decide), hsplit.eq⟩⟩
  · exact ⟨_, rest, hsplit, Or.inr ⟨Or.inl (by decide), hsplit.eq⟩⟩

/-! ### What is parsed -/

theorem isClear_iff {scheme : Str} :
    IsClear scheme ↔ toAsciiLowercase scheme = "http" ∨ toAsciiLowercase scheme = "ws" := by
  unfold IsClear
  rw [eqIgnoreAsciiCase_iff, eqIgnoreAsciiCase_iff]
  exact Iff.rfl

theorem isSecure_iff {scheme : Str} :
    IsSecure scheme ↔ toAsciiLowercase scheme = "https" ∨ toAsciiLowercase scheme = "wss" := by
  unfold IsSecure
  rw [eqIgnoreAsciiCase_iff, eqIgnoreAsciiCase_iff]
  exact Iff.rfl

/-- A target with a normal text is parsed as that. -/
theorem normalizeTarget_of_text (parseUri : Str → Except Str Uri) (h : NormalText target text) :
    normalizeTarget parseUri target = match parseUri text with
      | .ok uri => .ok uri
      | .error e => .error ("Invalid target URL '" ++ target ++ "': " ++ e) := by
  obtain ⟨scheme, rest, hsplit, htext⟩ := h
  unfold normalizeTarget
  rw [splitOnce_eq_some_iff.mpr hsplit]
  rcases htext with ⟨hclear, rfl⟩ | ⟨hsecure, rfl⟩
  · simp only [if_pos (isClear_iff.mp hclear)]
    rfl
  · have hnot := not_isClear_of_isSecure hsecure
    rw [isClear_iff] at hnot
    simp only [if_neg hnot, if_pos (isSecure_iff.mp hsecure)]
    rfl

/-- One without is refused, whatever the parser. -/
theorem normalizeTarget_of_no_text (parseUri : Str → Except Str Uri)
    (h : ∀ text, ¬NormalText target text) : ∃ e, normalizeTarget parseUri target = .error e := by
  unfold normalizeTarget
  cases hfound : splitOnce "://" target with
  | none => exact ⟨_, rfl⟩
  | some found =>
      obtain ⟨scheme, rest⟩ := found
      have hsplit := splitOnce_eq_some_iff.mp hfound
      have hclear : ¬IsClear scheme := fun hclear =>
        h _ ⟨scheme, rest, hsplit, Or.inl ⟨hclear, rfl⟩⟩
      have hsecure : ¬IsSecure scheme := fun hsecure =>
        h _ ⟨scheme, rest, hsplit, Or.inr ⟨hsecure, rfl⟩⟩
      rw [isClear_iff] at hclear
      rw [isSecure_iff] at hsecure
      simp only [if_neg hclear, if_neg hsecure]
      exact ⟨_, rfl⟩

/-- **The URL is that of the normal text**, and there is none without one. -/
theorem normalizeTarget_ok_iff {uri : Uri} :
    normalizeTarget parseUri target = .ok uri ↔
      ∃ text, NormalText target text ∧ parseUri text = .ok uri := by
  by_cases hnormal : ∃ text, NormalText target text
  · obtain ⟨text, htext⟩ := hnormal
    rw [normalizeTarget_of_text parseUri htext]
    constructor
    · intro h
      cases hparse : parseUri text with
      | error e =>
          rw [hparse] at h
          exact absurd h (by simp)
      | ok found =>
          rw [hparse] at h
          exact ⟨text, htext, hparse.trans h⟩
    · intro ⟨text', htext', hparse⟩
      rw [htext.unique htext', hparse]
  · obtain ⟨e, herror⟩ :=
      normalizeTarget_of_no_text parseUri fun text htext => hnormal ⟨text, htext⟩
    rw [herror]
    exact iff_of_false (by simp) fun ⟨text, htext, _⟩ => hnormal ⟨text, htext⟩

/-- A handshake sent upstream goes to the URL of its target's normal text. -/
theorem mem_sent_websocketProxy {w : World Client} {request : Request}
    {transport : WebSocketTransport} {sent : OutboundRequest Client}
    (h : sent ∈ (websocketProxy w request transport).sent) :
    ∃ metadata text, websocketMetadata request.headers = .ok metadata ∧
      NormalText metadata.target text ∧ w.parseUri text = .ok sent.uri := by
  unfold websocketProxy at h
  cases hmetadata : websocketMetadata request.headers with
  | error refusal =>
      rw [hmetadata] at h
      exact absurd h List.not_mem_nil
  | ok metadata =>
      simp only [hmetadata] at h
      cases huri : normalizeTarget w.parseUri metadata.target with
      | error e =>
          rw [huri] at h
          exact absurd h List.not_mem_nil
      | ok uri =>
          simp only [huri] at h
          obtain ⟨text, htext, hparse⟩ := normalizeTarget_ok_iff.mp huri
          refine ⟨metadata, text, rfl, htext, ?_⟩
          split at h
          · exact absurd h List.not_mem_nil
          · split at h
            · exact absurd h List.not_mem_nil
            · rw [List.mem_singleton.mp h]
              exact hparse

/-- The texts the plain path and the WebSocket path make a URL of are one. -/
theorem normalizeTarget_of_plainUri {w : World Client} {uri : Uri} (h : NormalText target target)
    (hplain : plainUri w target = .ok uri) : normalizeTarget w.parseUri target = .ok uri := by
  unfold plainUri at hplain
  cases hparse : w.parseUri target with
  | error e =>
      rw [hparse] at hplain
      exact absurd hplain (by simp)
  | ok found =>
      simp only [hparse] at hplain
      split at hplain
      · obtain rfl : found = uri := Except.ok.inj hplain
        exact normalizeTarget_ok_iff.mpr ⟨target, h, hparse⟩
      · exact absurd hplain (by simp)

/-- **Normalising a target changes neither its destination nor its security.** A URL is made only
of a normal text, which keeps the remainder and asks for TLS exactly if the target does.  It is its
own normal text, and that of a target in lower-case `http` or `https` is the target, of which the
plain path makes its URL.  Handshakes are sent nowhere else. -/
theorem target_normalized (w : World Client) (target : Str) :
    (∀ uri, normalizeTarget w.parseUri target = .ok uri ↔
      ∃ text, NormalText target text ∧ w.parseUri text = .ok uri) ∧
    (∀ scheme rest, SplitsAt "://" target scheme rest →
      (∀ text, NormalText target text ↔
        (IsClear scheme ∧ text = "http://" ++ rest) ∨
          (IsSecure scheme ∧ text = "https://" ++ rest)) ∧
      ¬(IsClear scheme ∧ IsSecure scheme)) ∧
    (∀ text, NormalText target text → ∀ text', NormalText text text' ↔ text' = text) ∧
    (∀ scheme rest, SplitsAt "://" target scheme rest →
      scheme = ("http" : Str) ∨ scheme = ("https" : Str) →
        (∀ text, NormalText target text ↔ text = target) ∧
        ∀ uri, plainUri w target = .ok uri → normalizeTarget w.parseUri target = .ok uri) ∧
    ∀ request transport, ∀ sent ∈ (websocketProxy w request transport).sent,
      ∃ metadata text, websocketMetadata request.headers = .ok metadata ∧
        NormalText metadata.target text ∧ w.parseUri text = .ok sent.uri := by
  refine ⟨fun uri => normalizeTarget_ok_iff, ?_, ?_, ?_, ?_⟩
  · intro scheme rest hsplit
    exact ⟨fun text => normalText_iff hsplit, fun h => not_isClear_of_isSecure h.2 h.1⟩
  · intro text h text'
    exact ⟨fun h' => h'.unique h.idem, fun h' => h' ▸ h.idem⟩
  · intro scheme rest hsplit hscheme
    have hself := normalText_self hsplit hscheme
    exact ⟨fun text => ⟨fun h => h.unique hself, fun h => h ▸ hself⟩,
      fun uri => normalizeTarget_of_plainUri hself⟩
  · intro request transport sent hsent
    exact mem_sent_websocketProxy hsent

end TlsPlus
