import WebAuth.KeySetCache
import WebAuth.Proxies
import WebAuth.Python.IpAddressText

/-!
# Configured proxy networks

Which addresses a parsed configuration trusts: a network matches the addresses inside it that are
not IPv4-mapped, and a mapped address is matched by its IPv4 form alone.
-/

namespace WebAuth

open Python

/-- An address lies in the network of a configured entry. -/
def InEntry (py : Platform) (raw : Str) (address : IpAddress) : Prop :=
  ∃ entry ∈ TrustedProxies.entries py raw, ∃ network,
    ipNetwork entry = some network ∧ network.Spans address

/-- The IPv4 form of an address. -/
def ipv4Form : IpAddress → Option (Fin (2 ^ 32))
  | .v4 ip => some ip
  | .v6 ip => ipv4Mapped ip

/-- Two notations of one address: the same, or one IPv4 address as it is and as IPv4-mapped. -/
def SameAddress (a b : IpAddress) : Prop := a = b ∨ ∃ ip, ipv4Form a = some ip ∧ ipv4Form b = some ip

/-- What the configuration promises of the text of an address. -/
structure MatchesEntries (py : Platform) (raw : Str) (trusted : TrustedProxies) (text : Str)
    (address : IpAddress) : Prop where
  inside : InEntry py raw address → trusted.holds text = true
  outside : (∀ form, SameAddress address form → ¬InEntry py raw form) → trusted.holds text = false

/-- A mapped address lies in an entry, and its IPv4 form lies in none. -/
def MappedOnly (py : Platform) (raw : Str) (address : IpAddress) : Prop :=
  ∃ ip mapped, address = .v6 ip ∧ ipv4Mapped ip = some mapped ∧ InEntry py raw address ∧
    ¬InEntry py raw (.v4 mapped)

section Networks

variable {py : Platform} {repr refused : Str → String} {raw text : Str} {trusted : TrustedProxies}
  {address : IpAddress}

/-- The form of an address that every decision keys on. -/
def canonicalForm : IpAddress → IpAddress
  | .v4 ip => .v4 ip
  | .v6 ip => ((ipv4Mapped ip).map .v4).getD (.v6 ip)

theorem canonicalAddress_of_ipAddress (hzone : chr '%' ∉ text) (h : ipAddress text = some address) :
    canonicalAddress text = some (canonicalForm address) := by
  have hlength := length_of_ipAddress h
  unfold canonicalAddress
  rw [if_neg, h]
  · cases address with
    | v4 ip => rfl
    | v6 ip => rfl
  · simp only [Bool.or_eq_true, decide_eq_true_eq, List.contains_iff_mem, not_or]
    exact ⟨by unfold maxAddressChars; omega, hzone⟩

theorem proxyNetwork_eq_ok {entry : Str} {network : IpNetwork}
    (h : proxyNetwork repr refused entry = .ok network) : ipNetwork entry = some network := by
  unfold proxyNetwork at h
  split_ifs at h with hzone
  split at h
  · rename_i network' hnetwork
    rw [hnetwork, Except.ok.inj h]
  · cases h

theorem mapM_proxyNetwork {entries : List Str} {networks : List IpNetwork}
    (h : entries.mapM (proxyNetwork repr refused) = .ok networks) :
    entries.mapM ipNetwork = some networks := by
  induction entries generalizing networks with
  | nil => exact congrArg some (Except.ok.inj h)
  | cons entry entries ih =>
    rw [List.mapM_cons] at h ⊢
    cases hfirst : proxyNetwork repr refused entry with
    | error e =>
      rw [hfirst] at h
      cases h
    | ok network =>
      rw [hfirst] at h
      cases hrest : entries.mapM (proxyNetwork repr refused) with
      | error e =>
        rw [hrest] at h
        cases h
      | ok rest =>
        rw [hrest] at h
        obtain rfl := Except.ok.inj h
        rw [proxyNetwork_eq_ok hfirst, ih hrest]
        rfl

/-- What a parsed configuration trusts is what lies in an entry. -/
theorem trusts_iff (hparse : TrustedProxies.parse py repr refused raw = .ok trusted) :
    trusted.trusts address = true ↔ InEntry py raw address := by
  have hnetworks : (TrustedProxies.entries py raw).mapM ipNetwork = some trusted.networks := by
    unfold TrustedProxies.parse at hparse
    cases hentries : (TrustedProxies.entries py raw).mapM (proxyNetwork repr refused) with
    | error e =>
      rw [hentries] at hparse
      cases hparse
    | ok networks =>
      rw [hentries] at hparse
      obtain rfl := Except.ok.inj hparse
      exact mapM_proxyNetwork hentries
  unfold TrustedProxies.trusts InEntry
  rw [List.any_eq_true]
  simp only [IpNetwork.holds_iff]
  constructor
  · rintro ⟨network, hmem, hspans⟩
    obtain ⟨entry, hentry, hnetwork⟩ := source_of_mapM hnetworks hmem
    exact ⟨entry, hentry, network, hnetwork, hspans⟩
  · rintro ⟨entry, hentry, network, hnetwork, hspans⟩
    obtain ⟨network', hmem, hnetwork'⟩ := parsed_of_mapM hnetworks hentry
    obtain rfl := Option.some.inj (hnetwork.symm.trans hnetwork')
    exact ⟨network, hmem, hspans⟩

theorem sameAddress_canonicalForm (address : IpAddress) :
    SameAddress address (canonicalForm address) := by
  cases address with
  | v4 ip => exact .inl rfl
  | v6 ip =>
    unfold canonicalForm
    dsimp only
    cases hmapped : ipv4Mapped ip with
    | none => exact .inl rfl
    | some mapped => exact .inr ⟨mapped, hmapped, rfl⟩

theorem holds_iff (hparse : TrustedProxies.parse py repr refused raw = .ok trusted)
    (hzone : chr '%' ∉ text) (haddress : ipAddress text = some address) :
    trusted.holds text = true ↔ InEntry py raw (canonicalForm address) := by
  rw [← trusts_iff hparse]
  unfold TrustedProxies.holds
  rw [canonicalAddress_of_ipAddress hzone haddress, Option.any_some]

end Networks

/-- **A configured network matches the text of each address inside it unless the address is
IPv4-mapped and only the mapped notation lies in an entry.** -/
theorem proxy_networks_match (py : Platform) (repr refused : Str → String) (raw : Str)
    (trusted : TrustedProxies) (text : Str) (address : IpAddress)
    (hparse : TrustedProxies.parse py repr refused raw = .ok trusted) (hzone : chr '%' ∉ text)
    (haddress : ipAddress text = some address) :
    MatchesEntries py raw trusted text address ↔ ¬MappedOnly py raw address := by
  have hholds := holds_iff hparse hzone haddress
  constructor
  · rintro h ⟨ip, mapped, rfl, hmapped, hinside, houtside⟩
    have hform : canonicalForm (.v6 ip) = .v4 mapped := by
      unfold canonicalForm
      dsimp only
      rw [hmapped]
      rfl
    rw [hform] at hholds
    exact houtside (hholds.1 (h.inside hinside))
  · intro h
    constructor
    case inside =>
      intro hinside
      rw [hholds]
      cases address with
      | v4 ip => exact hinside
      | v6 ip =>
        unfold canonicalForm
        dsimp only
        cases hmapped : ipv4Mapped ip with
        | none => exact hinside
        | some mapped =>
          by_contra houtside
          exact h ⟨ip, mapped, rfl, hmapped, hinside, houtside⟩
    case outside =>
      intro hnone
      rw [← Bool.not_eq_true, hholds]
      exact hnone _ (sameAddress_canonicalForm address)

/-- `::ffff:10.0.0.0/104`, the mapped notation of `10.0.0.0/8`. -/
def mappedNetwork : IpNetwork :=
  .v6 { address := 281470849515520
        prefixLength := 104
        prefixLength_le := by decide
        hostBits := by decide }

/-- `10.0.0.0/8`. -/
def privateNetwork : IpNetwork :=
  .v4 { address := 167772160
        prefixLength := 8
        prefixLength_le := by decide
        hostBits := by decide }

/-- An address inside the one entry, in the entry's own notation, is not matched. -/
theorem proxy_networks_match_mapped :
    TrustedProxies.parse demoPlatform (fun _ => "") (fun _ => "") (str "::ffff:10.0.0.0/104") =
        .ok ⟨[mappedNetwork]⟩ ∧
      chr '%' ∉ str "::ffff:10.1.2.3" ∧
      ipAddress (str "::ffff:10.1.2.3") = some (.v6 281470849581571) ∧
      InEntry demoPlatform (str "::ffff:10.0.0.0/104") (.v6 281470849581571) ∧
      (⟨[mappedNetwork]⟩ : TrustedProxies).holds (str "::ffff:10.1.2.3") = false := by
  refine ⟨by decide +kernel, by decide +kernel, by decide +kernel, ?_, by decide +kernel⟩
  refine ⟨str "::ffff:10.0.0.0/104", ?_, mappedNetwork, by decide +kernel, ?_⟩
  · have hentries : TrustedProxies.entries demoPlatform (str "::ffff:10.0.0.0/104") =
        [str "::ffff:10.0.0.0/104"] := by decide +kernel
    rw [hentries]
    exact List.mem_cons_self
  · exact ⟨by decide, by decide⟩

theorem proxy_networks_match_private :
    MatchesEntries demoPlatform (str "10.0.0.0/8") ⟨[privateNetwork]⟩ (str "10.1.2.3")
      (.v4 167838211) := by
  refine (proxy_networks_match demoPlatform (fun _ => "") (fun _ => "") (str "10.0.0.0/8")
    ⟨[privateNetwork]⟩ (str "10.1.2.3") (.v4 167838211) (by decide +kernel) (by decide +kernel)
    (by decide +kernel)).2 ?_
  rintro ⟨ip, mapped, heq, -⟩
  cases heq

end WebAuth
