import ZLayer.Proxy.PolicyEnforcement

/-!
# ClientIdentity — what a backend is told about the client

For a peer that is not trusted the proxy appends the peer's address to `X-Forwarded-For` and writes
it into `X-Real-IP`, the latter only if the request has no such header.  The values a backend gets
are followed header by header: each setter writes one name and leaves the others alone.
-/

namespace ZLayer.Proxy

open Lib List
open Overlay (IpAddr SocketAddr)

/-! ## One header at a time -/

lemma getAll_setHeader_of_ne (headers : HeaderMap) {name m : String} (text : String)
    (hne : m ≠ name) : (setHeader headers name text).getAll m = headers.getAll m := by
  unfold setHeader
  split
  · rw [HeaderMap.getAll_insert, if_neg hne]
  · rfl

lemma getAll_setHeader {text : String} (htext : IsAscii text) (headers : HeaderMap)
    (name : String) :
    ∃ v, (setHeader headers name text).getAll name = [v] ∧ v.toStr = some text := by
  obtain ⟨v, hparse, htoStr, -⟩ := htext.parse
  refine ⟨v, ?_, htoStr⟩
  rw [setHeader, hparse]
  simp [HeaderMap.getAll_insert]

namespace ReverseProxyService

variable {svc : ReverseProxyService} {peer : SocketAddr} {headers : HeaderMap}

variable {m : String}

lemma getAll_setForwardedFor_of_ne (clientIp : Option IpAddr) (hne : m ≠ "x-forwarded-for") :
    (svc.setForwardedFor clientIp headers).getAll m = headers.getAll m := by
  unfold setForwardedFor
  split
  · exact getAll_setHeader_of_ne _ _ hne
  · rfl

lemma getAll_setForwardedProto_of_ne (hne : m ≠ "x-forwarded-proto") :
    (svc.setForwardedProto headers).getAll m = headers.getAll m := by
  unfold setForwardedProto
  split
  · exact getAll_setHeader_of_ne _ _ hne
  · rfl

lemma getAll_setForwardedHost_of_ne (hne : m ≠ "x-forwarded-host") :
    (svc.setForwardedHost headers).getAll m = headers.getAll m := by
  unfold setForwardedHost
  split
  · rw [HeaderMap.getAll_insert, if_neg hne]
  · rfl

lemma getAll_setRealIp_of_ne (clientIp : Option IpAddr) (hne : m ≠ "x-real-ip") :
    (svc.setRealIp clientIp headers).getAll m = headers.getAll m := by
  unfold setRealIp
  split
  · exact getAll_setHeader_of_ne _ _ hne
  · rfl

lemma getAll_setVia_of_ne (version : HttpVersion) (hne : m ≠ "via") :
    (svc.setVia version headers).getAll m = headers.getAll m := by
  unfold setVia
  split
  · exact getAll_setHeader_of_ne _ _ hne
  · rfl

/-! ## The forwarded values -/

/-- A header that no setter writes is left alone. -/
lemma getAll_addForwardingHeaders_of_not_mem (version : HttpVersion)
    (h : m ∉ ["x-forwarded-for", "x-forwarded-proto", "x-forwarded-host", "x-real-ip", "via"]) :
    (svc.addForwardingHeaders version headers).getAll m = headers.getAll m := by
  simp only [mem_cons, not_mem_nil, or_false, not_or] at h
  obtain ⟨hfor, hproto, hhost, hreal, hvia⟩ := h
  rw [addForwardingHeaders, getAll_setVia_of_ne _ hvia, getAll_setRealIp_of_ne _ hreal,
    getAll_setForwardedHost_of_ne hhost, getAll_setForwardedProto_of_ne hproto,
    getAll_setForwardedFor_of_ne _ hfor]

lemma effectiveClientIp_of_untrusted (huntrusted : svc.peerIsTrusted = false)
    (hpeer : svc.remoteAddr = some peer) : svc.effectiveClientIp headers = some peer.ip := by
  simp [effectiveClientIp, huntrusted, hpeer]

/-- The values of `X-Real-IP`: those that were there, or the peer's address. -/
lemma realIp_addForwardingHeaders (version : HttpVersion)
    (huntrusted : svc.peerIsTrusted = false) (hpeer : svc.remoteAddr = some peer)
    (hreal : svc.config.xRealIp = true) :
    (headers.getAll "x-real-ip" ≠ [] ∧
        (svc.addForwardingHeaders version headers).getAll "x-real-ip" =
          headers.getAll "x-real-ip") ∨
      (headers.getAll "x-real-ip" = [] ∧
        ∃ v, (svc.addForwardingHeaders version headers).getAll "x-real-ip" = [v] ∧
          v.toStr = some peer.ip.toString) := by
  rw [addForwardingHeaders, getAll_setVia_of_ne _ (by decide),
    effectiveClientIp_of_untrusted huntrusted hpeer]
  have hbefore : (svc.setForwardedHost (svc.setForwardedProto
      (svc.setForwardedFor (some peer.ip) headers))).getAll "x-real-ip" =
        headers.getAll "x-real-ip" := by
    rw [getAll_setForwardedHost_of_ne (by decide), getAll_setForwardedProto_of_ne (by decide),
      getAll_setForwardedFor_of_ne _ (by decide)]
  by_cases hnone : headers.getAll "x-real-ip" = []
  · refine .inr ⟨hnone, ?_⟩
    simp only [setRealIp, hreal, HeaderMap.get, hbefore.trans hnone, head?_nil]
    exact getAll_setHeader peer.ip.isAddrText.isAscii _ _
  · refine .inl ⟨hnone, ?_⟩
    obtain ⟨v, vs, hcons⟩ := exists_cons_of_ne_nil hnone
    have hget : (svc.setForwardedHost (svc.setForwardedProto
        (svc.setForwardedFor (some peer.ip) headers))).get "x-real-ip" = some v := by
      rw [HeaderMap.get, hbefore, hcons]
      rfl
    simp only [setRealIp, hreal, hget]
    exact hbefore

/-- With `X-Forwarded-For` enabled the peer's address is the last element, whatever was there. -/
lemma lastElement_addForwardingHeaders (version : HttpVersion)
    (huntrusted : svc.peerIsTrusted = false) (hpeer : svc.remoteAddr = some peer)
    (hfor : svc.config.xForwardedFor = true) :
    ∃ v, (svc.addForwardingHeaders version headers).getAll "x-forwarded-for" = [v] ∧
      v.toStr.bind Str.lastElement = some peer.ip.toString := by
  rw [addForwardingHeaders, getAll_setVia_of_ne _ (by decide), getAll_setRealIp_of_ne _ (by decide),
    getAll_setForwardedHost_of_ne (by decide), getAll_setForwardedProto_of_ne (by decide)]
  have haddr := peer.ip.isAddrText
  simp only [setForwardedFor, hfor, hpeer, forwardedForValue, huntrusted, Bool.false_eq_true,
    if_false]
  cases hchain : headerText headers "x-forwarded-for" with
  | none =>
    obtain ⟨v, hvalues, htoStr⟩ := getAll_setHeader haddr.isAscii headers "x-forwarded-for"
    refine ⟨v, hvalues, ?_⟩
    rw [htoStr]
    simp [Str.lastElement, Str.split, Str.splitChars_of_not_mem haddr.comma_not_mem,
      Str.trim_of_forall haddr.not_whitespace]
  | some chain =>
    obtain ⟨old, -, hold⟩ := Option.bind_eq_some_iff.mp hchain
    have hascii : IsAscii (chain ++ ", " ++ peer.ip.toString) :=
      ((isAscii_of_toStr hold).append (isAscii_of_chars (by simp))).append haddr.isAscii
    obtain ⟨v, hvalues, htoStr⟩ := getAll_setHeader hascii headers "x-forwarded-for"
    refine ⟨v, hvalues, ?_⟩
    rw [htoStr]
    exact Str.lastElement_append chain haddr.comma_not_mem haddr.not_whitespace

lemma getAll_forwardedFor_of_disabled (version : HttpVersion)
    (hfor : svc.config.xForwardedFor = false) :
    (svc.addForwardingHeaders version headers).getAll "x-forwarded-for" =
      headers.getAll "x-forwarded-for" := by
  rw [addForwardingHeaders, getAll_setVia_of_ne _ (by decide), getAll_setRealIp_of_ne _ (by decide),
    getAll_setForwardedHost_of_ne (by decide), getAll_setForwardedProto_of_ne (by decide),
    setForwardedFor, hfor]

/-! ## What is taken over from the request -/

/-- The header is removed with the hop-by-hop headers, because the request names it as one. -/
def Stripped (req : Request) (name : String) : Prop :=
  isUpgradeRequest req.headers = false ∧
    name ∈ (connectionTokens req.headers).map Str.toAsciiLowercase

instance (req : Request) (name : String) : Decidable (Stripped req name) :=
  inferInstanceAs (Decidable (_ ∧ _))

/-- The client's values the proxy starts from: all of them, or the last one when the headers are
copied for an upgrade. -/
def received (req : Request) (name : String) : List HeaderValue :=
  if isUpgradeRequest req.headers then (req.headers.getAll name).getLast?.toList
  else req.headers.getAll name

lemma getAll_foldl_remove (names : List String) (headers : HeaderMap) (m : String) :
    (names.foldl HeaderMap.remove headers).getAll m =
      if m ∈ names then [] else headers.getAll m := by
  induction names generalizing headers with
  | nil => simp
  | cons name rest ih =>
    rw [foldl_cons, ih, HeaderMap.getAll_remove]
    by_cases hm : m = name
    · simp [hm]
    · simp [hm]

lemma getAll_copyUpgradeHeaders_of_not_mem (source destination : HeaderMap)
    (h : m ∉ "connection" :: "upgrade" :: websocketHeaders) :
    (copyUpgradeHeaders source destination).getAll m = destination.getAll m := by
  unfold copyUpgradeHeaders
  refine foldlRecOn
    (motive := fun headers : HeaderMap => headers.getAll m = destination.getAll m) _ _ rfl ?_
  intro headers hheaders name hname
  have hne : m ≠ name := fun heq => h (by rwa [heq])
  split
  · rw [HeaderMap.getAll_insert, if_neg hne, hheaders]
  · exact hheaders

/-- Each header a backend gets is stripped, or it is what the forwarding headers make of the
values taken over. -/
lemma getAll_backendHeaders (svc : ReverseProxyService) (req : Request) : ∃ headers version,
      (∀ m ∉ "connection" :: "upgrade" :: websocketHeaders, headers.getAll m = received req m) ∧
      ∀ m ∉ hopByHop, (svc.backendHeaders req).getAll m =
        if Stripped req m then [] else (svc.addForwardingHeaders version headers).getAll m := by
  unfold backendHeaders
  by_cases hupgrade : isUpgradeRequest req.headers = true
  · refine ⟨copyUpgradeHeaders req.headers (HeaderMap.insertAll [] req.headers), .http11, ?_, ?_⟩
    · intro m hm
      rw [getAll_copyUpgradeHeaders_of_not_mem _ _ hm, HeaderMap.getAll_insertAll, received,
        if_pos hupgrade]
      cases (req.headers.getAll m).getLast? with
      | none => rfl
      | some v => rfl
    · intro m _
      have hkept : ¬ Stripped req m := fun h => absurd hupgrade (by simp [h.1])
      rw [if_pos hupgrade, if_neg hkept]
  · refine ⟨req.headers, req.version, fun m _ => (if_neg hupgrade).symm, ?_⟩
    intro m hm
    have htokens : connectionTokens (svc.addForwardingHeaders req.version req.headers) =
        connectionTokens req.headers := by
      simp only [connectionTokens, headerText, HeaderMap.get,
        getAll_addForwardingHeaders_of_not_mem _ (show "connection" ∉ _ by decide)]
    rw [if_neg hupgrade, removeHopByHopHeaders, getAll_foldl_remove, htokens]
    simp only [mem_append, hm, false_or, Stripped, Bool.not_eq_true _ ▸ hupgrade, true_and]

end ReverseProxyService

open ReverseProxyService

/-! ## The client a backend sees -/

/-- The last element of a list-valued header, over all its values. -/
def lastElement (values : List HeaderValue) : Option String :=
  (values.getLast?.bind HeaderValue.toStr).bind Str.lastElement

/-- The headers say that the request comes from the address. -/
structure Identifies (ip : IpAddr) (headers : HeaderMap) : Prop where
  present : headers.getAll "x-real-ip" ≠ []
  realIp : ∀ v ∈ headers.getAll "x-real-ip", v.toStr = some ip.toString
  forwardedFor : lastElement (headers.getAll "x-forwarded-for") = some ip.toString

/-- The request does not make the proxy remove the two headers, it has no `X-Real-IP` of another
address, and `X-Forwarded-For` is written by the proxy or ends with the address already. -/
structure Unforged (svc : ReverseProxyService) (ip : IpAddr) (req : Request) : Prop where
  realIp_kept : ¬ Stripped req "x-real-ip"
  forwardedFor_kept : ¬ Stripped req "x-forwarded-for"
  realIp : ∀ v ∈ received req "x-real-ip", v.toStr = some ip.toString
  forwardedFor : svc.config.xForwardedFor = true ∨
    lastElement (req.headers.getAll "x-forwarded-for") = some ip.toString

/-- The proxy serves a connection of an untrusted peer with this address, and it is to set
`X-Real-IP`. -/
structure FacesUntrusted (svc : ReverseProxyService) (ip : IpAddr) : Prop where
  peer : svc.remoteAddr.map SocketAddr.ip = some ip
  untrusted : svc.trustedProxies.isTrusted ip = false
  xRealIp : svc.config.xRealIp = true

lemma lastElement_received (req : Request) (name : String) :
    lastElement (received req name) = lastElement (req.headers.getAll name) := by
  unfold received lastElement
  split
  · cases (req.headers.getAll name).getLast? <;> rfl
  · rfl

/-- The backend is told the peer's address exactly for the requests that leave it to the proxy. -/
lemma identifies_backendHeaders_iff {svc : ReverseProxyService} {ip : IpAddr}
    (h : FacesUntrusted svc ip) (req : Request) :
    Identifies ip (svc.backendHeaders req) ↔ Unforged svc ip req := by
  obtain ⟨peer, hpeer, rfl⟩ := Option.map_eq_some_iff.mp h.peer
  have huntrusted : svc.peerIsTrusted = false := by
    simp [peerIsTrusted, hpeer, h.untrusted]
  obtain ⟨headers, version, hreceived, hvalues⟩ := getAll_backendHeaders svc req
  have hreal := hvalues "x-real-ip" (by decide)
  have hfor := hvalues "x-forwarded-for" (by decide)
  have hrealReceived := hreceived "x-real-ip" (by decide)
  have hforReceived := hreceived "x-forwarded-for" (by decide)
  constructor
  · intro hid
    have hrealKept : ¬ Stripped req "x-real-ip" := by
      intro hstripped
      exact hid.present (by rw [hreal, if_pos hstripped])
    have hforKept : ¬ Stripped req "x-forwarded-for" := by
      intro hstripped
      have hlast := hid.forwardedFor
      rw [hfor, if_pos hstripped] at hlast
      cases hlast
    rw [if_neg hrealKept] at hreal
    rw [if_neg hforKept] at hfor
    refine ⟨hrealKept, hforKept, ?_, ?_⟩
    · intro v hv
      rcases realIp_addForwardingHeaders version huntrusted hpeer h.xRealIp with
        ⟨-, hsame⟩ | ⟨hnone, -⟩
      · refine hid.realIp v ?_
        rw [hreal, hsame, hrealReceived]
        exact hv
      · rw [← hrealReceived, hnone] at hv
        exact absurd hv not_mem_nil
    · cases hconfig : svc.config.xForwardedFor with
      | true => exact .inl rfl
      | false =>
        refine .inr ?_
        have hlast := hid.forwardedFor
        rw [hfor, getAll_forwardedFor_of_disabled version hconfig, hforReceived,
          lastElement_received] at hlast
        exact hlast
  · intro hun
    rw [if_neg hun.realIp_kept] at hreal
    rw [if_neg hun.forwardedFor_kept] at hfor
    have hrealValues : (svc.backendHeaders req).getAll "x-real-ip" ≠ [] ∧
        ∀ v ∈ (svc.backendHeaders req).getAll "x-real-ip", v.toStr = some peer.ip.toString := by
      rw [hreal]
      rcases realIp_addForwardingHeaders version huntrusted hpeer h.xRealIp with
        ⟨hsome, hsame⟩ | ⟨-, v, hv, htoStr⟩
      · rw [hsame]
        exact ⟨hsome, fun v hv => hun.realIp v (hrealReceived ▸ hv)⟩
      · rw [hv]
        exact ⟨cons_ne_nil _ _, fun w hw => by rw [mem_singleton.mp hw, htoStr]⟩
    refine ⟨hrealValues.1, hrealValues.2, ?_⟩
    rw [hfor]
    cases hconfig : svc.config.xForwardedFor with
    | true =>
      obtain ⟨v, hv, hlast⟩ := lastElement_addForwardingHeaders version huntrusted hpeer hconfig
      rw [hv]
      exact hlast
    | false =>
      have hown := hun.forwardedFor.resolve_left (by simp [hconfig])
      rw [getAll_forwardedFor_of_disabled version hconfig, hforReceived, lastElement_received]
      exact hown

lemma HeaderValue.eq_of_toStr {v w : HeaderValue} {s : String} (hv : v.toStr = some s)
    (hw : w.toStr = some s) : v = w := by
  have hbytes {u : HeaderValue} (hu : u.toStr = some s) : u.bytes = utf8Bytes s := by
    unfold HeaderValue.toStr at hu
    split at hu
    · exact (utf8Bytes_of_fromUtf8 hu).symm
    · cases hu
  cases v
  cases w
  congr
  exact (hbytes hv).trans (hbytes hw).symm

/-- Two requests of one untrusted address: the backends are told the same client, the peer, exactly
when both requests leave it to the proxy. -/
theorem identity_iff (svc₁ svc₂ : ReverseProxyService) (ip : IpAddr)
    (h₁ : FacesUntrusted svc₁ ip) (h₂ : FacesUntrusted svc₂ ip) (req₁ req₂ : Request)
    (f₁ f₂ : Forwarded) (hf₁ : (svc₁.proxyRequest req₁).1 = .ok (.forwarded f₁))
    (hf₂ : (svc₂.proxyRequest req₂).1 = .ok (.forwarded f₂)) :
    (Identifies ip f₁.headers ∧ Identifies ip f₂.headers ∧
        ∀ v ∈ f₁.headers.getAll "x-real-ip", ∀ w ∈ f₂.headers.getAll "x-real-ip", v = w) ↔
      Unforged svc₁ ip req₁ ∧ Unforged svc₂ ip req₂ := by
  obtain ⟨-, resolved₁, backend₁, uri₁, -, -, -, rfl⟩ := proxyRequest_eq_forwarded hf₁
  obtain ⟨-, resolved₂, backend₂, uri₂, -, -, -, rfl⟩ := proxyRequest_eq_forwarded hf₂
  rw [← identifies_backendHeaders_iff h₁, ← identifies_backendHeaders_iff h₂]
  constructor
  · exact fun h => ⟨h.1, h.2.1⟩
  · rintro ⟨hid₁, hid₂⟩
    exact ⟨hid₁, hid₂, fun v hv w hw =>
      HeaderValue.eq_of_toStr (hid₁.realIp v hv) (hid₂.realIp w hw)⟩

/-! ## A client that names itself -/

namespace IdentityExample

open PolicyExample (container request)

def peer : SocketAddr := ⟨.v4 0xcb007109, 50000⟩

def service : ReverseProxyService :=
  { PolicyExample.service [] with
    remoteAddr := some peer
    networkPolicyChecker := none
    trustedProxies := ⟨[.v4 ⟨0x7f000000, 8, by decide⟩], none⟩ }

def local10 : HeaderValue where
  bytes := [49, 48, 46, 48, 46, 48, 46, 49]
  valid := all_eq_true.mp rfl

def chained : Request :=
  { request with headers := [("cf-connecting-ip", local10), ("x-forwarded-for", local10)] }

def forged : Request :=
  { request with headers := [("x-real-ip", local10)] }

def sent (req : Request) : Forwarded :=
  ⟨container, ⟨some "10.0.0.5", "/x", none⟩, service.backendHeaders req⟩

end IdentityExample

open IdentityExample in
open PolicyExample (request) in
theorem identity_of_chained : FacesUntrusted service peer.ip ∧
      ((Identifies peer.ip (sent request).headers ∧ Identifies peer.ip (sent chained).headers ∧
        ∀ v ∈ (sent request).headers.getAll "x-real-ip",
          ∀ w ∈ (sent chained).headers.getAll "x-real-ip", v = w) ↔
        Unforged service peer.ip request ∧ Unforged service peer.ip chained) :=
  have hfaces : FacesUntrusted service peer.ip := ⟨rfl, by decide +kernel, rfl⟩
  ⟨hfaces, identity_iff service service peer.ip hfaces hfaces request chained (sent request)
    (sent chained) (by decide +kernel) (by decide +kernel)⟩

open IdentityExample in
/-- The backend is told the address the client has chosen. -/
theorem realIp_forged : service.trustedProxies.isTrusted peer.ip = false ∧
      (service.proxyRequest forged).1 = .ok (.forwarded (sent forged)) ∧
      ((sent forged).headers.getAll "x-real-ip").map HeaderValue.toStr = [some "10.0.0.1"] ∧
      peer.ip.toString = "203.0.113.9" := by
  decide +kernel

end ZLayer.Proxy
