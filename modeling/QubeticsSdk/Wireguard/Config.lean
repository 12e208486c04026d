import QubeticsSdk.Wireguard.Key
import QubeticsSdk.Vpn.Types

/-! # WireGuard configurations

    The client's peer (`PeerClientConfig`), the client (`ClientConfig`) and
    the server (`ServerConfig`) of package `wireguard`, with their
    `Validate` methods and the client's configuration file, the text
    `client.conf.tmpl` renders. The three validators check a key field in
    the same way (`keyError`): not empty, and accepted by
    `NewKeyFromString`.

    The module also holds the rules of the hooks wg-quick runs: the
    client's `PostUp` and `PreDown`, and the server's `PostUp` and
    `PostDown`.

    Result: a validator cannot tell a key's text from the same text behind
    a newline, which `NewKeyFromString` also accepts; the file then carries
    the newline into the `PrivateKey` line (`Validate_accepts_split_keys`).
-/

namespace Qubetics.Wireguard

open Vpn

/-! ## Section 1: Validation -/

/-- The check of a key field `field` holding `s`: not empty, and a key. -/
def keyError (field s : String) : Option Error :=
  if s = "" then some (.new (field ++ " cannot be empty"))
  else
    match NewKeyFromString s with
    | .error err => some (.errorf ("invalid " ++ field ++ ": ") err)
    | .ok _ => none

/-- `PeerClientConfig`. -/
structure PeerClientConfig where
  Addr : String
  AllowAddrs : List String
  PersistentKeepalive : Nat
  Port : UInt16
  PublicKey : String

/-- `c.Validate()` of a peer. -/
def PeerClientConfig.Validate (p : Parsers) (c : PeerClientConfig) : Option Error :=
  if c.Addr = "" then some (.new "addr cannot be empty")
  else
    match firstError p.prefixError c.AllowAddrs with
    | some err => some (.errorf "failed to parse addr: " err)
    | none =>
      if c.PersistentKeepalive = 0 then some (.new "persistent_keepalive cannot be empty")
      else if c.Port = 0 then some (.new "port cannot be empty")
      else keyError "public_key" c.PublicKey

/-- `ClientConfig`; `Peer` is `none` for a `nil` peer. -/
structure ClientConfig where
  Addrs : List String
  DNSAddrs : List String
  ExcludeAddrs : List String
  MTU : UInt16
  Name : String
  Peer : Option PeerClientConfig
  Port : UInt16
  PrivateKey : String

/-- `c.Validate()` of a client. -/
def ClientConfig.Validate (p : Parsers) (c : ClientConfig) : Option Error :=
  if c.Addrs = [] then some (.new "addrs cannot be empty")
  else
    match firstError p.prefixError c.Addrs with
    | some err => some (.errorf "invalid addr: " err)
    | none =>
      if c.DNSAddrs.any (fun a => !p.ParseIP a) then some (.new "invalid dns addr")
      else
        match firstError p.prefixError c.ExcludeAddrs with
        | some err => some (.errorf "failed to parse excluded addr: " err)
        | none =>
          if c.MTU = 0 then some (.new "mtu cannot be empty")
          else if c.Name = "" then some (.new "name cannot be empty")
          else
            match c.Peer with
            | none => some (.new "peer cannot be empty")
            | some peer =>
              match peer.Validate p with
              | some err => some (.errorf "invalid peer config: " err)
              | none =>
                if c.Port = 0 then some (.new "port cannot be empty")
                else keyError "private_key" c.PrivateKey

/-- `ServerConfig` of the WireGuard server. -/
structure ServerConfig where
  InInterface : String
  IPv4Addr : String
  IPv6Addr : String
  OutInterface : String
  Port : String
  PrivateKey : String

/-- The check of an optional address field: `NewNetPrefixFromString` when
    it is set. -/
def addrError (p : Parsers) (field s : String) : Option Error :=
  if s = "" then none
  else (p.NewNetPrefixFromString s).map (.errorf ("invalid " ++ field ++ ": "))

/-- `c.Validate()` of a server. -/
def ServerConfig.Validate (p : Parsers) (c : ServerConfig) : Option Error :=
  if c.InInterface = "" then some (.new "in_interface cannot be empty")
  else if c.IPv4Addr = "" ∧ c.IPv6Addr = "" then
    some (.new "either ipv4_addr or ipv6_addr is required")
  else
    match addrError p "ipv4_addr" c.IPv4Addr with
    | some err => some err
    | none =>
      match addrError p "ipv6_addr" c.IPv6Addr with
      | some err => some err
      | none =>
        if c.OutInterface = "" then some (.new "out_interface cannot be empty")
        else if c.Port = "" then some (.new "port cannot be empty")
        else
          match p.NewPortFromString c.Port with
          | .error err => some (.errorf "invalid port: " err)
          | .ok _ => keyError "private_key" c.PrivateKey

/-! ## Section 2: The client's configuration file -/

/-- `net.JoinHostPort(host, port)`. -/
def JoinHostPort (host port : String) : String :=
  if host.contains ':' then "[" ++ host ++ "]:" ++ port else host ++ ":" ++ port

/-- `c.Endpoint()` of a peer. -/
def PeerClientConfig.Endpoint (c : PeerClientConfig) : String :=
  JoinHostPort c.Addr (toString c.Port.toNat)

/-- `c.GetExcludeAddrs()`: it panics on an address it cannot parse. -/
def ClientConfig.GetExcludeAddrs (p : Parsers) (c : ClientConfig) : Result (List Prefix) :=
  c.ExcludeAddrs.mapM fun addr =>
    match p.ParsePrefix addr with
    | .ok v => .ok v
    | .error err => .panic err.text

/-- The rules of `c.PostUp()` (`flag` `-I`) and `c.PreDown()` (`flag`
    `-D`): drop what leaves outside the tunnel, except the excluded
    addresses. -/
def ClientConfig.rules (p : Parsers) (c : ClientConfig) (flag : String) : Result (List String) := do
  let addrs ← c.GetExcludeAddrs p
  let matchRule := "! -o " ++ c.Name ++ " -m mark ! --mark $(wg show " ++ c.Name ++ " fwmark)"
  pure ([ "iptables " ++ flag ++ " OUTPUT " ++ matchRule ++ " -j DROP",
      "ip6tables " ++ flag ++ " OUTPUT " ++ matchRule ++ " -j DROP"] ++
    addrs.map fun v => (if v.is6 then "ip6tables" else "iptables") ++ " " ++ flag ++ " OUTPUT " ++
      matchRule ++ " -d " ++ v.text ++ " -j ACCEPT")

/-- `c.PostUp()`. -/
def ClientConfig.PostUp (p : Parsers) (c : ClientConfig) : Result (List String) := c.rules p "-I"

/-- `c.PreDown()`. -/
def ClientConfig.PreDown (p : Parsers) (c : ClientConfig) : Result (List String) := c.rules p "-D"

/-- The text `client.conf.tmpl` renders for `c` with peer `peer`, given
    the rules of `c.PostUp()` and `c.PreDown()`; `{{-` trims the
    newlines before it, and `join` is `strings.Join`. -/
def clientConf (c : ClientConfig) (peer : PeerClientConfig) (postUp preDown : List String) :
    String :=
  "[Interface]\nAddress = " ++ ",".intercalate c.Addrs ++
    "\nDNS = " ++ ",".intercalate c.DNSAddrs ++
    "\nListenPort = " ++ toString c.Port.toNat ++
    "\nMTU = " ++ toString c.MTU.toNat ++
    "\nPrivateKey = " ++ c.PrivateKey ++
    String.join (postUp.map ("\nPostUp = " ++ ·)) ++
    String.join (preDown.map ("\nPreDown = " ++ ·)) ++
    "\n\n[Peer]\nAllowedIPs = " ++ ",".intercalate peer.AllowAddrs ++
    "\nEndpoint = " ++ peer.Endpoint ++
    "\nPersistentKeepalive = " ++ toString peer.PersistentKeepalive ++
    "\nPublicKey = " ++ peer.PublicKey ++ "\n"

/-- The file `c.WriteToFile(name)` writes for a client with peer `peer`. -/
def ClientConfig.File (p : Parsers) (c : ClientConfig) (peer : PeerClientConfig) : Result String := do
  let postUp ← c.PostUp p
  let preDown ← c.PreDown p
  pure (clientConf c peer postUp preDown)

/-! ## Section 3: The server's hooks -/

/-- The rules of `c.PostUp()` (`flag` `-A`) and `c.PostDown()` (`flag`
    `-D`) of a server: accept what the tunnel forwards, and masquerade
    what leaves by `OutInterface`, for each address family it has. -/
def ServerConfig.rules (c : ServerConfig) (flag : String) : List String :=
  (if c.IPv4Addr ≠ "" then
    ["iptables " ++ flag ++ " FORWARD -i %i -j ACCEPT",
      "iptables -t nat " ++ flag ++ " POSTROUTING -o " ++ c.OutInterface ++ " -j MASQUERADE"]
  else []) ++
  (if c.IPv6Addr ≠ "" then
    ["ip6tables " ++ flag ++ " FORWARD -i %i -j ACCEPT",
      "ip6tables -t nat " ++ flag ++ " POSTROUTING -o " ++ c.OutInterface ++ " -j MASQUERADE"]
  else [])

/-- `c.PostUp()` of a server. -/
def ServerConfig.PostUp (c : ServerConfig) : List String := c.rules "-A"

/-- `c.PostDown()` of a server. -/
def ServerConfig.PostDown (c : ServerConfig) : List String := c.rules "-D"

/-! ## Section 4: Keys with newlines -/

/-- A key field's check depends on its text only through
    `NewKeyFromString`. -/
theorem keyError_congr (field : String) {s s' : String} (hs : s ≠ "") (hs' : s' ≠ "")
    (h : NewKeyFromString s = NewKeyFromString s') : keyError field s = keyError field s' := by
  simp only [keyError, if_neg hs, if_neg hs', h]

theorem newline_ne_empty (k : Key) : "\n" ++ k.String ≠ "" :=
  fun h => List.cons_ne_nil _ _ (congrArg String.data h)

/-- A key's text is not empty: the empty text decodes to no bytes. -/
theorem Key.String_ne_empty (k : Key) : k.String ≠ "" := by
  intro h
  have hk := NewKeyFromString_String k
  rw [h, show NewKeyFromString "" = .error (.new "decoded key must be 32 bytes") from rfl] at hk
  cases hk

theorem keyError_newline (field : String) (k : Key) :
    keyError field ("\n" ++ k.String) = keyError field k.String :=
  keyError_congr field (newline_ne_empty k) k.String_ne_empty
    ((NewKeyFromString_newline k).1.trans (NewKeyFromString_String k).symm)

/-- **The validators accept a key's text behind a newline.** For every
    key `k`, each of the three validators answers the same for a key field
    holding `k.String()` or `"\n" ++ k.String()`, and the client's file
    writes the second as it is: an empty `PrivateKey` line, then the key's
    text on a line of its own. -/
theorem Validate_accepts_split_keys (p : Parsers) (k : Key) (peer : PeerClientConfig)
    (client : ClientConfig) (server : ServerConfig) :
    { peer with PublicKey := "\n" ++ k.String }.Validate p =
        { peer with PublicKey := k.String }.Validate p ∧
      { client with PrivateKey := "\n" ++ k.String }.Validate p =
        { client with PrivateKey := k.String }.Validate p ∧
      { server with PrivateKey := "\n" ++ k.String }.Validate p =
        { server with PrivateKey := k.String }.Validate p ∧
      ∀ postUp preDown, ∃ pre post,
        clientConf { client with PrivateKey := "\n" ++ k.String } peer postUp preDown =
          pre ++ "\nPrivateKey = \n" ++ k.String ++ post := by
  refine ⟨?_, ?_, ?_, fun postUp preDown => ?_⟩
  · simp only [PeerClientConfig.Validate, keyError_newline]
  · simp only [ClientConfig.Validate, keyError_newline]
  · simp only [ServerConfig.Validate, keyError_newline]
  · exact ⟨"[Interface]\nAddress = " ++ ",".intercalate client.Addrs ++
      "\nDNS = " ++ ",".intercalate client.DNSAddrs ++
      "\nListenPort = " ++ toString client.Port.toNat ++ "\nMTU = " ++ toString client.MTU.toNat,
      _, by simp only [clientConf, String.append_assoc]; rfl⟩

end Qubetics.Wireguard
