import QubeticsSdk.Vpn.Types
import Mathlib.Order.Interval.Finset.Nat

/-! # V2Ray server configuration

    `InboundServerConfig` and `ServerConfig` of package `v2ray` with their
    `Validate` methods. The server's `Validate` runs over its inbounds and
    marks, for each, every port of its inbound range and of its outbound
    range in a set, failing on a port already marked, and then its tag.

    The port loops count with a `uint16`, `for p := port.InFrom; p <= port.InTo; p++`:
    at `InTo = 65535` the condition always holds, `p` wraps to `0`, and the loop
    ends only at a marked port. A range that ends at the top port is
    therefore always reported as a duplicate (`markPorts_of_top`).

    Result: for inbounds that each pass their own check, the server's
    `Validate` accepts exactly the non-empty lists with pairwise disjoint
    inbound ranges, pairwise disjoint outbound ranges, distinct tags and no
    range ending at `65535` (`ServerConfig_Validate_iff`).

    The protocol names (`NewProxyProtocolFromString` and its kin) and
    `Tag.String` are not under `src/`: the model takes them as a
    `Protocols` record, as it takes the port parser from `Vpn.Parsers`.
-/

namespace Qubetics.V2ray

open Vpn

/-! ## Section 1: Inbounds -/

/-- The protocol names an inbound is checked against, and its tag. -/
structure Protocols where
  /-- `NewProxyProtocolFromString(s).IsValid()`. -/
  ProxyIsValid : String → Bool
  /-- `NewProxyProtocolFromString(s).String()`. -/
  ProxyString : String → String
  /-- `NewTransportSecurityFromString(s).IsValid()`. -/
  SecurityIsValid : String → Bool
  /-- `NewTransportSecurityFromString(s).String()`. -/
  SecurityString : String → String
  /-- `NewTransportSecurityFromString(s) == TransportSecurityTLS`. -/
  SecurityIsTLS : String → Bool
  /-- `NewTransportProtocolFromString(s).IsValid()`. -/
  TransportIsValid : String → Bool
  /-- `NewTransportProtocolFromString(s).String()`. -/
  TransportString : String → String
  /-- `Tag.String()` of the tag of a port range, proxy, security and
      transport. -/
  TagString : Port → String → String → String → String

/-- `InboundServerConfig`. -/
structure InboundServerConfig where
  Port : String
  Proxy : String
  Security : String
  TLSCertPath : String
  TLSKeyPath : String
  Transport : String

variable (p : Parsers) (v : Protocols)

/-- `c.Validate()` of an inbound. -/
def InboundServerConfig.Validate (c : InboundServerConfig) : Option Error :=
  if c.Port = "" then some (.new "port cannot be empty")
  else
    match p.NewPortFromString c.Port with
    | .error err => some (.errorf "invalid port: " err)
    | .ok _ =>
      if !v.ProxyIsValid c.Proxy then some (.new ("invalid proxy " ++ v.ProxyString c.Proxy))
      else if !v.SecurityIsValid c.Security then
        some (.new ("invalid security " ++ v.SecurityString c.Security))
      else if v.SecurityIsTLS c.Security ∧ c.TLSCertPath = "" then
        some (.new "tls_cert_path cannot be empty")
      else if v.SecurityIsTLS c.Security ∧ c.TLSKeyPath = "" then
        some (.new "tls_key_path cannot be empty")
      else if !v.TransportIsValid c.Transport then
        some (.new ("invalid transport " ++ v.TransportString c.Transport))
      else none

/-- `c.GetPort()`: it panics on a port it cannot parse. -/
def InboundServerConfig.GetPort (c : InboundServerConfig) : Result Vpn.Port :=
  match p.NewPortFromString c.Port with
  | .ok port => .ok port
  | .error err => .panic err.text

/-- `Tag`: the port range and protocol names that name an inbound. -/
structure Tag where
  Port : Vpn.Port
  Proxy : String
  Security : String
  Transport : String

/-- `t.String()`. -/
def Tag.String (t : Tag) : String := v.TagString t.Port t.Proxy t.Security t.Transport

/-- `c.Tag()`. -/
def InboundServerConfig.Tag (c : InboundServerConfig) : Result V2ray.Tag := do
  let port ← c.GetPort p
  pure ⟨port, c.Proxy, c.Security, c.Transport⟩

/-! ## Section 2: The port loop -/

/-- `for p := first; p <= last; p++ { if set[p] { return err }; set[p] = true }`
    over a `uint16` counter, `dir` naming the ports in the error. It ends
    because every turn that goes on marks a port of `0..last` that was not
    marked. -/
def markPorts (dir : String) (last : Nat) (set : Finset Nat) (p : Nat) : Except Error (Finset Nat) :=
  if hp : p ≤ last then
    if hm : p ∈ set then .error (.new ("duplicate " ++ dir ++ " port " ++ toString p))
    else markPorts dir last (insert p set) ((p + 1) % 65536)
  else .ok set
termination_by (Finset.range (last + 1) \ set).card
decreasing_by
  rw [Finset.sdiff_insert]
  exact Finset.card_erase_lt_of_mem (Finset.mem_sdiff.2 ⟨Finset.mem_range.2 (by omega), hm⟩)

section Loop

variable {dir : String} {last : Nat} {set : Finset Nat}

theorem markPorts_of_gt {q : Nat} (h : last < q) : markPorts dir last set q = .ok set := by
  rw [markPorts, dif_neg (by omega)]

theorem markPorts_of_mem {q : Nat} (hq : q ≤ last) (h : q ∈ set) :
    markPorts dir last set q = .error (.new ("duplicate " ++ dir ++ " port " ++ toString q)) := by
  rw [markPorts, dif_pos hq, dif_pos h]

theorem markPorts_of_not_mem {q : Nat} (hq : q ≤ last) (h : q ∉ set) :
    markPorts dir last set q = markPorts dir last (insert q set) ((q + 1) % 65536) := by
  rw [markPorts, dif_pos hq, dif_neg h]

/-- A marked port at or after the counter, up to `last`, stops the loop. -/
theorem markPorts_error_of_mem (hlast : last < 65536) {q r : Nat} (hqr : q ≤ r) (hr : r ≤ last)
    (hmem : r ∈ set) : ∃ e, markPorts dir last set q = .error e := by
  obtain ⟨k, rfl⟩ := Nat.exists_eq_add_of_le hqr
  induction k generalizing q set with
  | zero => exact ⟨_, markPorts_of_mem hr hmem⟩
  | succ k ih =>
    by_cases hq : q ∈ set
    · exact ⟨_, markPorts_of_mem (by omega) hq⟩
    · rw [markPorts_of_not_mem (by omega) hq, Nat.mod_eq_of_lt (by omega)]
      have hqk : q + (k + 1) = q + 1 + k := by omega
      exact ih (by omega) (by omega) (Finset.mem_insert_of_mem (hqk ▸ hmem))

/-- The loop runs through the unmarked ports `q..r-1` below the top
    without wrapping, marking them. -/
theorem markPorts_skip {q r : Nat} (hqr : q ≤ r) (hr : r ≤ last + 1) (h16 : r < 65536)
    (hd : Disjoint (Finset.Ico q r) set) :
    markPorts dir last set q = markPorts dir last (set ∪ Finset.Ico q r) r := by
  obtain ⟨k, rfl⟩ := Nat.exists_eq_add_of_le hqr
  induction k generalizing q set with
  | zero => simp
  | succ k ih =>
    have hq : q ∉ set := Finset.disjoint_left.1 hd (Finset.mem_Ico.2 ⟨le_refl q, by omega⟩)
    have hk : q + (k + 1) = q + 1 + k := by omega
    have hd' : Disjoint (Finset.Ico (q + 1) (q + 1 + k)) (insert q set) :=
      Finset.disjoint_insert_right.2 ⟨by simp, Finset.disjoint_of_subset_left
        (Finset.Ico_subset_Ico (by omega) (by omega)) hd⟩
    have hunion : insert q set ∪ Finset.Ico (q + 1) (q + 1 + k) = set ∪ Finset.Ico q (q + 1 + k) := by
      rw [Finset.insert_union, ← Finset.union_insert, Nat.Ico_insert_succ_left (by omega)]
    rw [markPorts_of_not_mem (by omega) hq, Nat.mod_eq_of_lt (by omega),
      ih (by omega) (by omega) (by omega) hd', hunion, hk]

/-- Below the top port, the loop over a range none of whose ports is
    marked marks the range. -/
theorem markPorts_of_disjoint {f : Nat} (hlast : last < 65535)
    (hd : Disjoint (Finset.Icc f last) set) :
    markPorts dir last set f = .ok (set ∪ Finset.Icc f last) := by
  by_cases hf : last < f
  · rw [markPorts_of_gt hf, Finset.Icc_eq_empty (by omega), Finset.union_empty]
  · rw [← Nat.Ico_succ_right] at hd ⊢
    rw [markPorts_skip (by omega) (le_refl _) (by omega) hd, markPorts_of_gt (Nat.lt_succ_self _)]

/-- A range with a marked port stops the loop. -/
theorem markPorts_error_of_not_disjoint {f : Nat} (hlast : last < 65536)
    (h : ¬ Disjoint (Finset.Icc f last) set) : ∃ e, markPorts dir last set f = .error e := by
  obtain ⟨r, hr, hmem⟩ := Finset.not_disjoint_iff.1 h
  obtain ⟨hfr, hrl⟩ := Finset.mem_Icc.1 hr
  exact markPorts_error_of_mem hlast hfr hrl hmem

/-- **A range that ends at the top port is always a duplicate.** The
    counter wraps from `65535` to `0` and climbs back to a marked port. -/
theorem markPorts_of_top {f : Nat} (hf : f < 65536) : ∃ e, markPorts dir 65535 set f = .error e := by
  by_cases hd : Disjoint (Finset.Icc f 65535) set
  · have hd' : Disjoint (Finset.Ico f 65535) set :=
      Finset.disjoint_of_subset_left Finset.Ico_subset_Icc_self hd
    have htop : 65535 ∉ set ∪ Finset.Ico f 65535 := by
      simp only [Finset.mem_union, Finset.mem_Ico, not_or]
      exact ⟨fun h => Finset.disjoint_right.1 hd h (Finset.mem_Icc.2 ⟨by omega, le_refl _⟩),
        by omega⟩
    have hfmem : f ∈ insert 65535 (set ∪ Finset.Ico f 65535) := by
      rcases Nat.lt_or_ge f 65535 with hlt | hge
      · simp [hlt]
      · simp [show f = 65535 by omega]
    rw [markPorts_skip (by omega) (by omega) (by omega) hd', markPorts_of_not_mem (le_refl _) htop]
    exact markPorts_error_of_mem (by omega) (Nat.zero_le f) (by omega) hfmem
  · exact markPorts_error_of_not_disjoint (by omega) hd

/-- Outside the case of `markPorts_of_disjoint`, the loop fails. -/
theorem markPorts_error_of_not_fits {f : Nat} (hf : f < 65536) (hlast : last < 65536)
    (h : ¬ (last ≠ 65535 ∧ Disjoint (Finset.Icc f last) set)) :
    ∃ e, markPorts dir last set f = .error e := by
  by_cases htop : last = 65535
  · exact htop ▸ markPorts_of_top hf
  · exact markPorts_error_of_not_disjoint hlast (fun hd => h ⟨htop, hd⟩)

end Loop

/-! ## Section 3: The server -/

/-- The inbound ports of a port range. -/
def inRange (port : Vpn.Port) : Finset Nat := Finset.Icc port.InFrom.toNat port.InTo.toNat

/-- The outbound ports of a port range. -/
def outRange (port : Vpn.Port) : Finset Nat := Finset.Icc port.OutFrom.toNat port.OutTo.toNat

/-- `ServerConfig` of the V2Ray server. -/
structure ServerConfig where
  Inbounds : List InboundServerConfig

/-- The loop of `c.Validate()` over the inbounds, with the sets of
    inbound ports, outbound ports and tags seen so far. -/
def validateInbounds : Finset Nat → Finset Nat → List String → List InboundServerConfig → Result Unit
  | _, _, _, [] => .ok ()
  | inPorts, outPorts, tags, inbound :: rest =>
    match inbound.Validate p v with
    | some err => .err (.errorf "invalid inbound: " err)
    | none => do
      let port ← inbound.GetPort p
      match markPorts "in" port.InTo.toNat inPorts port.InFrom.toNat with
      | .error err => .err err
      | .ok inPorts =>
        match markPorts "out" port.OutTo.toNat outPorts port.OutFrom.toNat with
        | .error err => .err err
        | .ok outPorts => do
          let tag := (← inbound.Tag p).String v
          if tag ∈ tags then .err (.new ("duplicate tag " ++ tag))
          else validateInbounds inPorts outPorts (tag :: tags) rest

/-- `c.Validate()` of the server. -/
def ServerConfig.Validate (c : ServerConfig) : Result Unit :=
  if c.Inbounds.length = 0 then .err (.new "inbounds cannot be empty")
  else validateInbounds p v ∅ ∅ [] c.Inbounds

theorem toNat_lt (x : UInt16) : x.toNat < 65536 := x.toNat_lt_size

/-- One turn of the server's loop, on an inbound that passes its own
    check: it goes on exactly when both ranges fit and the tag is new. -/
theorem validateInbounds_cons {i : InboundServerConfig} {port : Vpn.Port}
    (hv : i.Validate p v = none) (hport : p.NewPortFromString i.Port = .ok port)
    (ins outs : Finset Nat) (tags : List String) (rest : List InboundServerConfig) :
    validateInbounds p v ins outs tags (i :: rest) = .ok () ↔
      ((port.InTo.toNat ≠ 65535 ∧ Disjoint ins (inRange port)) ∧
        (port.OutTo.toNat ≠ 65535 ∧ Disjoint outs (outRange port))) ∧
      v.TagString port i.Proxy i.Security i.Transport ∉ tags ∧
      validateInbounds p v (ins ∪ inRange port) (outs ∪ outRange port)
        (v.TagString port i.Proxy i.Security i.Transport :: tags) rest = .ok () := by
  simp only [validateInbounds, hv, InboundServerConfig.GetPort, InboundServerConfig.Tag, hport,
    Result.ok_bind, Tag.String]
  by_cases hin : port.InTo.toNat ≠ 65535 ∧ Disjoint ins (inRange port)
  · have hi : markPorts "in" port.InTo.toNat ins port.InFrom.toNat = .ok (ins ∪ inRange port) :=
      markPorts_of_disjoint (by have := toNat_lt port.InTo; omega) hin.2.symm
    rw [hi]
    by_cases hout : port.OutTo.toNat ≠ 65535 ∧ Disjoint outs (outRange port)
    · have ho : markPorts "out" port.OutTo.toNat outs port.OutFrom.toNat =
          .ok (outs ∪ outRange port) :=
        markPorts_of_disjoint (by have := toNat_lt port.OutTo; omega) hout.2.symm
      by_cases htag : v.TagString port i.Proxy i.Security i.Transport ∈ tags <;>
        simp [ho, hin, hout, htag]
    · obtain ⟨e, he⟩ := @markPorts_error_of_not_fits "out" _ _ _ (toNat_lt port.OutFrom)
        (toNat_lt port.OutTo) (by rwa [disjoint_comm])
      simp [he, hout]
  · obtain ⟨e, he⟩ := @markPorts_error_of_not_fits "in" _ _ _ (toNat_lt port.InFrom)
      (toNat_lt port.InTo) (by rwa [disjoint_comm])
    simp [he, hin]

/-- The tags of inbounds, each with the port its text parses to. -/
def tagsOf (is : List InboundServerConfig) (ports : List Vpn.Port) : List String :=
  List.zipWith (fun i port => v.TagString port i.Proxy i.Security i.Transport) is ports

/-- An inbound that passes its own check, and the port its text parses
    to. -/
def Parsed (i : InboundServerConfig) (port : Vpn.Port) : Prop :=
  i.Validate p v = none ∧ p.NewPortFromString i.Port = .ok port

/-- The server's loop, from any sets seen so far, goes through inbounds
    that pass their own checks exactly when no range reaches the top port
    or meets a range seen before or another one of the list, and the tags
    are new and distinct. -/
theorem validateInbounds_eq_ok_iff {is : List InboundServerConfig} {ports : List Vpn.Port}
    (h : List.Forall₂ (Parsed p v) is ports) (ins outs : Finset Nat) (tags : List String) :
    validateInbounds p v ins outs tags is = .ok () ↔
      (∀ port ∈ ports, (port.InTo.toNat ≠ 65535 ∧ Disjoint ins (inRange port)) ∧
        (port.OutTo.toNat ≠ 65535 ∧ Disjoint outs (outRange port))) ∧
      (ports.map inRange).Pairwise Disjoint ∧ (ports.map outRange).Pairwise Disjoint ∧
      (∀ t ∈ tagsOf v is ports, t ∉ tags) ∧ (tagsOf v is ports).Nodup := by
  induction h generalizing ins outs tags with
  | nil => simp [validateInbounds, tagsOf]
  | @cons i port is ports hi _ ih =>
    rw [validateInbounds_cons p v hi.1 hi.2, ih]
    simp only [tagsOf, List.zipWith_cons_cons, List.forall_mem_cons, List.map_cons,
      List.pairwise_cons, List.forall_mem_map, List.nodup_cons, List.mem_cons, not_or,
      Finset.disjoint_union_left, forall_and, imp_and, forall_eq_or_imp, List.forall_mem_ne']
    tauto

/-- An inbound whose inbound range ends at the top port stops the
    server's loop with an error. -/
theorem validateInbounds_of_top {i : InboundServerConfig} {port : Vpn.Port}
    (hv : i.Validate p v = none) (hport : p.NewPortFromString i.Port = .ok port)
    (htop : port.InTo.toNat = 65535) (ins outs : Finset Nat) (tags : List String)
    (rest : List InboundServerConfig) :
    ∃ e, validateInbounds p v ins outs tags (i :: rest) = .err e := by
  obtain ⟨e, he⟩ := @markPorts_of_top "in" ins port.InFrom.toNat (toNat_lt _)
  rw [← htop] at he
  exact ⟨e, by simp [validateInbounds, hv, InboundServerConfig.GetPort, hport, he]⟩

/-- **What the server's `Validate` accepts.** For inbounds that each pass
    their own check, with the ports their texts parse to, `c.Validate()`
    returns `nil` exactly when there is an inbound, the inbound ranges are
    pairwise disjoint, the outbound ranges are pairwise disjoint, the tags
    are distinct, and no range ends at port `65535`. -/
theorem ServerConfig_Validate_iff (c : ServerConfig) {ports : List Vpn.Port}
    (h : List.Forall₂ (Parsed p v) c.Inbounds ports) :
    c.Validate p v = .ok () ↔
      c.Inbounds ≠ [] ∧ (∀ port ∈ ports, port.InTo.toNat ≠ 65535 ∧ port.OutTo.toNat ≠ 65535) ∧
      (ports.map inRange).Pairwise Disjoint ∧ (ports.map outRange).Pairwise Disjoint ∧
      (tagsOf v c.Inbounds ports).Nodup := by
  rw [ServerConfig.Validate]
  split_ifs with hempty
  · simp [List.length_eq_zero.1 hempty]
  · rw [validateInbounds_eq_ok_iff p v h]
    simp [List.length_eq_zero.not.1 hempty, forall_and]

/-- A port parser that knows the texts of `table`. -/
def tableParsers (table : List (String × Vpn.Port)) : Parsers where
  ParsePrefix _ := .error (.new "no prefix")
  ParseIP _ := false
  NewNetPrefixFromString _ := some (.new "no prefix")
  NewPortFromString s :=
    match table.lookup s with
    | some port => .ok port
    | none => .error (.new "invalid port")

/-- The port texts `8080` and `65535`, each a single port both ways. -/
def portTable : List (String × Vpn.Port) :=
  [("8080", ⟨8080, 8080, 8080, 8080⟩), ("65535", ⟨65535, 65535, 65535, 65535⟩)]

/-- The protocols of `DefaultServerConfig`: `vmess` over `tcp` or `grpc`,
    with security `none` or `tls`. -/
def vmessProtocols : Protocols where
  ProxyIsValid s := s = "vmess"
  ProxyString s := s
  SecurityIsValid s := s = "none" || s = "tls"
  SecurityString s := s
  SecurityIsTLS s := s = "tls"
  TransportIsValid s := s = "tcp" || s = "grpc"
  TransportString s := s
  TagString port proxy security transport :=
    proxy ++ "_" ++ security ++ "_" ++ transport ++ "_" ++ toString port.InFrom.toNat

/-- An inbound on port `8080`, as `DefaultServerConfig` writes one. -/
def inbound8080 : InboundServerConfig := ⟨"8080", "vmess", "none", "", "", "tcp"⟩

/-- An inbound on the top port. -/
def inboundTop : InboundServerConfig := ⟨"65535", "vmess", "none", "", "", "tcp"⟩

/-- A single inbound on port `8080` is accepted. -/
theorem ServerConfig_Validate_8080 :
    (ServerConfig.mk [inbound8080]).Validate (tableParsers portTable) vmessProtocols = .ok () ↔
      [inbound8080] ≠ [] ∧
        (∀ port ∈ [(⟨8080, 8080, 8080, 8080⟩ : Vpn.Port)],
          port.InTo.toNat ≠ 65535 ∧ port.OutTo.toNat ≠ 65535) ∧
        ([(⟨8080, 8080, 8080, 8080⟩ : Vpn.Port)].map inRange).Pairwise Disjoint ∧
        ([(⟨8080, 8080, 8080, 8080⟩ : Vpn.Port)].map outRange).Pairwise Disjoint ∧
        (tagsOf vmessProtocols [inbound8080] [⟨8080, 8080, 8080, 8080⟩]).Nodup :=
  ServerConfig_Validate_iff (tableParsers portTable) vmessProtocols ⟨[inbound8080]⟩
    (.cons ⟨by simp [InboundServerConfig.Validate, inbound8080, tableParsers, portTable,
      vmessProtocols], rfl⟩ .nil)

/-- **A single inbound on the top port is rejected.** It passes its own
    check, and the server's `Validate` reports a duplicate port. -/
theorem ServerConfig_Validate_rejects_top :
    inboundTop.Validate (tableParsers portTable) vmessProtocols = none ∧
      ∃ e, (ServerConfig.mk [inboundTop]).Validate (tableParsers portTable) vmessProtocols = .err e := by
  have hport : (tableParsers portTable).NewPortFromString "65535" =
      .ok ⟨65535, 65535, 65535, 65535⟩ := rfl
  have hv : inboundTop.Validate (tableParsers portTable) vmessProtocols = none := by
    simp [InboundServerConfig.Validate, hport, inboundTop, vmessProtocols]
  exact ⟨hv, by simpa [ServerConfig.Validate] using validateInbounds_of_top _ _ hv hport rfl ∅ ∅ [] []⟩

end Qubetics.V2ray
