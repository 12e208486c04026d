import QubeticsSdk.Wireguard.Config

/-! # The firewall rules of the WireGuard hooks

    wg-quick runs a client's `PostUp` rules once the tunnel is up and its
    `PreDown` rules before the tunnel goes down; a server's rules are its
    `PostUp` and `PostDown`. Each rule is one command of `iptables` or
    `ip6tables`, `exec [-t table] verb chain spec`. The client inserts
    (`-I`) into `OUTPUT` a DROP rule per binary (the kill switch) and an
    ACCEPT rule per excluded prefix; the server appends (`-A`) an ACCEPT
    rule to `FORWARD` and a MASQUERADE rule to `POSTROUTING` per address
    family it has. Both take their rules back with `-D`.

    Each pair of hooks is one list of commands, `ClientConfig.commands` or
    `ServerConfig.commands`, rendered with two verbs
    (`ClientConfig.rules_eq`, `ServerConfig.rules_eq`).

    `iptables` is not part of the repository. The module models what the
    hooks use of it (`Tables`, `Command.run`): each chain of each table of
    each binary is a list of rules, a rule taken as its text; `-I` puts a
    rule first, `-A` last, and `-D` removes the first rule equal to its
    own, and fails when there is none. The shell expands
    `$(wg show … fwmark)` each time a hook runs; the model takes the text
    before expansion, which is the same rule while the interface's mark
    stays.

    Results: the client's `PreDown` after its `PostUp` gives every chain
    back exactly (`runAll_delete_front`); the server's `PostDown` after
    its `PostUp` gives every chain back with the same rules, in an order
    that can differ, since a chain that already held a copy of an appended
    rule loses that earlier copy (`runAll_delete_perm`). Both in one
    statement: `hooks_undo_each_other`.
-/

namespace Qubetics.Wireguard

open Vpn

/-! ## Section 1: Commands -/

/-- The verbs of the hooks. -/
inductive Verb where
  | I
  | A
  | D
  deriving DecidableEq, Repr

/-- The text of a verb. -/
def Verb.flag : Verb → String
  | .I => "-I"
  | .A => "-A"
  | .D => "-D"

/-- One command of the hooks without its verb: `exec [-t table] chain spec`. -/
structure Command where
  exec : String
  table : Option String
  chain : String
  spec : String
  deriving DecidableEq, Repr

/-- The text of `cmd` with verb `v`. -/
def Command.render (v : Verb) (cmd : Command) : String :=
  cmd.exec ++ (match cmd.table with | some t => " -t " ++ t | none => "") ++ " " ++ v.flag ++ " " ++
    cmd.chain ++ " " ++ cmd.spec

/-- The commands of a client's hooks, for the excluded prefixes `addrs`. -/
def ClientConfig.commands (c : ClientConfig) (addrs : List Prefix) : List Command :=
  let matchRule := "! -o " ++ c.Name ++ " -m mark ! --mark $(wg show " ++ c.Name ++ " fwmark)"
  ⟨"iptables", none, "OUTPUT", matchRule ++ " -j DROP"⟩ ::
    ⟨"ip6tables", none, "OUTPUT", matchRule ++ " -j DROP"⟩ ::
    addrs.map fun v =>
      ⟨if v.is6 then "ip6tables" else "iptables", none, "OUTPUT",
        matchRule ++ " -d " ++ v.text ++ " -j ACCEPT"⟩

/-- The commands of a server's hooks. -/
def ServerConfig.commands (c : ServerConfig) : List Command :=
  (if c.IPv4Addr ≠ "" then
    [⟨"iptables", none, "FORWARD", "-i %i -j ACCEPT"⟩,
      ⟨"iptables", some "nat", "POSTROUTING", "-o " ++ c.OutInterface ++ " -j MASQUERADE"⟩]
  else []) ++
  (if c.IPv6Addr ≠ "" then
    [⟨"ip6tables", none, "FORWARD", "-i %i -j ACCEPT"⟩,
      ⟨"ip6tables", some "nat", "POSTROUTING", "-o " ++ c.OutInterface ++ " -j MASQUERADE"⟩]
  else [])

/-- A client's rules with verb `v` are its commands rendered with `v`. -/
theorem ClientConfig.rules_eq (p : Parsers) (c : ClientConfig) (v : Verb) :
    c.rules p v.flag =
      c.GetExcludeAddrs p >>= fun addrs => pure ((c.commands addrs).map (Command.render v)) := by
  unfold ClientConfig.rules
  congr 1
  funext addrs
  show pure _ = pure _
  congr 1
  simp only [ClientConfig.commands, List.map_cons, List.map_map, List.cons_append, List.nil_append,
    List.cons.injEq]
  refine ⟨?_, ?_, List.map_congr_left fun a _ => ?_⟩ <;>
    simp only [Function.comp, Command.render, String.append_assoc] <;> rfl

/-- A server's rules with verb `v` are its commands rendered with `v`. -/
theorem ServerConfig.rules_eq (c : ServerConfig) (v : Verb) :
    c.rules v.flag = c.commands.map (Command.render v) := by
  unfold ServerConfig.rules ServerConfig.commands
  split_ifs <;>
    simp only [List.map_append, List.map_cons, List.map_nil, List.nil_append, List.append_nil,
      List.cons_append, Command.render, String.append_assoc] <;>
    rfl

/-- A client whose excluded addresses all parse has them as prefixes. -/
theorem ClientConfig.GetExcludeAddrs_of_parse (p : Parsers) (c : ClientConfig)
    (h : ∀ a ∈ c.ExcludeAddrs, ∃ v, p.ParsePrefix a = .ok v) :
    ∃ addrs, c.GetExcludeAddrs p = .ok addrs := by
  unfold ClientConfig.GetExcludeAddrs
  generalize c.ExcludeAddrs = as at h ⊢
  induction as with
  | nil => exact ⟨[], rfl⟩
  | cons a as ih =>
    obtain ⟨v, hv⟩ := h a (List.mem_cons_self _ _)
    obtain ⟨vs, hvs⟩ := ih fun a' ha' => h a' (List.mem_cons_of_mem _ ha')
    exact ⟨v :: vs, by simp only [List.mapM_cons, hv, hvs, Result.ok_bind]; rfl⟩

/-- A client's commands call `iptables` or `ip6tables`. -/
theorem ClientConfig.commands_exec (c : ClientConfig) (addrs : List Prefix) :
    ∀ cmd ∈ c.commands addrs, cmd.exec = "iptables" ∨ cmd.exec = "ip6tables" := by
  simp only [ClientConfig.commands, List.mem_cons, List.mem_map]
  rintro cmd (rfl | rfl | ⟨v, -, rfl⟩)
  · exact .inl rfl
  · exact .inr rfl
  · dsimp only
    split
    · exact .inr rfl
    · exact .inl rfl

/-- A server's commands call `iptables` or `ip6tables`. -/
theorem ServerConfig.commands_exec (c : ServerConfig) :
    ∀ cmd ∈ c.commands, cmd.exec = "iptables" ∨ cmd.exec = "ip6tables" := by
  unfold ServerConfig.commands
  intro cmd hcmd
  split_ifs at hcmd <;>
    simp only [List.mem_append, List.mem_cons, List.mem_nil_iff, or_false, false_or] at hcmd <;>
    rcases hcmd with ((rfl | rfl) | (rfl | rfl)) | rfl | rfl <;>
    first | exact .inl rfl | exact .inr rfl

/-! ## Section 2: iptables -/

/-- A chain: the binary, the table (`filter` when the command names none),
    and the chain's name. -/
abbrev ChainId := String × String × String

/-- The chain `cmd` acts on. -/
def Command.chainId (cmd : Command) : ChainId := (cmd.exec, cmd.table.getD "filter", cmd.chain)

/-- What `iptables` and `ip6tables` keep: the rules of every chain, in
    order. -/
abbrev Tables := ChainId → List String

/-- `cmd` with verb `v` on the tables `t`: `-I` puts the rule first in its
    chain, `-A` last, and `-D` removes the first rule equal to it, and
    fails when there is none. -/
def Command.run (v : Verb) (cmd : Command) (t : Tables) : Option Tables :=
  match v with
  | .I => some (Function.update t cmd.chainId (cmd.spec :: t cmd.chainId))
  | .A => some (Function.update t cmd.chainId (t cmd.chainId ++ [cmd.spec]))
  | .D =>
    if cmd.spec ∈ t cmd.chainId then
      some (Function.update t cmd.chainId ((t cmd.chainId).erase cmd.spec))
    else none

/-- The commands `cmds`, each with verb `v`, one after another, as
    wg-quick runs the lines of a hook; `none` once one fails. -/
def runAll (v : Verb) : List Command → Tables → Option Tables
  | [], t => some t
  | cmd :: cmds, t => (cmd.run v t).bind (runAll v cmds)

/-- The rules `cmds` put into chain `k`, in order. -/
def rulesOf (cmds : List Command) (k : ChainId) : List String :=
  (cmds.filter (·.chainId == k)).map (·.spec)

@[simp] theorem rulesOf_nil (k : ChainId) : rulesOf [] k = [] := rfl

theorem rulesOf_cons (cmd : Command) (cmds : List Command) (k : ChainId) :
    rulesOf (cmd :: cmds) k =
      if cmd.chainId = k then cmd.spec :: rulesOf cmds k else rulesOf cmds k := by
  by_cases hk : cmd.chainId = k <;> simp [rulesOf, List.filter_cons, hk]

@[simp] theorem rulesOf_cons_self (cmd : Command) (cmds : List Command) :
    rulesOf (cmd :: cmds) cmd.chainId = cmd.spec :: rulesOf cmds cmd.chainId := by
  simp [rulesOf_cons]

theorem rulesOf_cons_of_ne {cmd : Command} {k : ChainId} (hk : k ≠ cmd.chainId)
    (cmds : List Command) : rulesOf (cmd :: cmds) k = rulesOf cmds k := by
  simp [rulesOf_cons, Ne.symm hk]

/-! ## Section 3: Adding rules and taking them back -/

/-- **Inserting.** Each chain gets the rules put into it, the last one
    first, in front of the rules it held. -/
theorem runAll_insert (cmds : List Command) (t : Tables) :
    runAll .I cmds t = some fun k => (rulesOf cmds k).reverse ++ t k := by
  induction cmds generalizing t with
  | nil => rfl
  | cons cmd cmds ih =>
    simp only [runAll, Command.run, Option.some_bind, ih]
    congr 1
    funext k
    by_cases hk : k = cmd.chainId
    · subst hk; simp
    · simp [hk, rulesOf_cons_of_ne hk]

/-- **Appending.** Each chain gets the rules put into it, in order,
    behind the rules it held. -/
theorem runAll_append (cmds : List Command) (t : Tables) :
    runAll .A cmds t = some fun k => t k ++ rulesOf cmds k := by
  induction cmds generalizing t with
  | nil => simp [runAll]
  | cons cmd cmds ih =>
    simp only [runAll, Command.run, Option.some_bind, ih]
    congr 1
    funext k
    by_cases hk : k = cmd.chainId
    · subst hk; simp
    · simp [hk, rulesOf_cons_of_ne hk]

/-- **Deleting what stands in front.** When each chain holds the rules
    `cmds` put into it, in any order, in front of the rules of `t`,
    deleting them succeeds and gives `t` back. -/
theorem runAll_delete_front (cmds : List Command) (t : Tables) {front : Tables}
    (h : ∀ k, (front k).Perm (rulesOf cmds k)) :
    runAll .D cmds (fun k => front k ++ t k) = some t := by
  induction cmds generalizing front with
  | nil =>
    obtain rfl : front = fun _ => [] := funext fun k => (h k).eq_nil
    rfl
  | cons cmd cmds ih =>
    have hmem : cmd.spec ∈ front cmd.chainId := (h _).mem_iff.mpr (by simp)
    have hupd : Function.update (fun k => front k ++ t k) cmd.chainId
        ((front cmd.chainId).erase cmd.spec ++ t cmd.chainId) =
        fun k => Function.update front cmd.chainId ((front cmd.chainId).erase cmd.spec) k ++ t k := by
      funext k
      by_cases hk : k = cmd.chainId
      · subst hk; simp
      · simp [hk]
    simp only [runAll, Command.run, List.mem_append, hmem, true_or, if_true, Option.some_bind,
      List.erase_append_left _ hmem, hupd]
    refine ih fun k => ?_
    by_cases hk : k = cmd.chainId
    · subst hk; simpa using (h cmd.chainId).erase cmd.spec
    · simpa [hk, rulesOf_cons_of_ne hk] using h k

/-- **Deleting what was added anywhere.** When each chain holds the rules
    of `t` and the rules `cmds` put into it, in any order, deleting them
    succeeds and leaves each chain with the rules of `t`, in some order. -/
theorem runAll_delete_perm (cmds : List Command) (t : Tables) {u : Tables}
    (h : ∀ k, (u k).Perm (t k ++ rulesOf cmds k)) :
    ∃ t', runAll .D cmds u = some t' ∧ ∀ k, (t' k).Perm (t k) := by
  induction cmds generalizing u with
  | nil => exact ⟨u, rfl, fun k => by simpa using h k⟩
  | cons cmd cmds ih =>
    have hmem : cmd.spec ∈ u cmd.chainId := (h _).mem_iff.mpr (by simp)
    simp only [runAll, Command.run, hmem, if_true, Option.some_bind]
    refine ih fun k => ?_
    by_cases hk : k = cmd.chainId
    · subst hk
      have hk' := h cmd.chainId
      rw [rulesOf_cons_self] at hk'
      simpa using (hk'.erase cmd.spec).trans (List.perm_middle.erase cmd.spec)
    · simpa [hk, rulesOf_cons_of_ne hk] using h k

/-- A `FORWARD` chain that already accepts `%i` ahead of another rule gets
    its copy of the rule deleted, not the appended one: the same rules,
    in another order. -/
example :
    (runAll .A [⟨"iptables", none, "FORWARD", "-i %i -j ACCEPT"⟩]
        (fun _ => ["-i %i -j ACCEPT", "-j DROP"]) >>=
      runAll .D [⟨"iptables", none, "FORWARD", "-i %i -j ACCEPT"⟩]).map
        (· ("iptables", "filter", "FORWARD")) = some ["-j DROP", "-i %i -j ACCEPT"] := by
  decide

/-! ## Section 4: The hooks -/

/-- **The client's hooks undo each other.** For a client whose excluded
    addresses all parse, `PostUp` and `PreDown` are its commands (the two
    kill-switch DROP rules, then an ACCEPT rule per excluded prefix)
    rendered with `-I` and with `-D`, and run one after the other from any
    tables they give the tables back. -/
theorem ClientConfig.PreDown_undoes_PostUp (p : Parsers) (c : ClientConfig)
    (hparse : ∀ a ∈ c.ExcludeAddrs, ∃ v, p.ParsePrefix a = .ok v) :
    ∃ addrs, c.GetExcludeAddrs p = .ok addrs ∧
      c.PostUp p = .ok ((c.commands addrs).map (Command.render .I)) ∧
      c.PreDown p = .ok ((c.commands addrs).map (Command.render .D)) ∧
      (∀ cmd ∈ c.commands addrs, cmd.exec = "iptables" ∨ cmd.exec = "ip6tables") ∧
      ∀ t, ∃ t', runAll .I (c.commands addrs) t = some t' ∧
        runAll .D (c.commands addrs) t' = some t := by
  obtain ⟨addrs, haddrs⟩ := c.GetExcludeAddrs_of_parse p hparse
  refine ⟨addrs, haddrs, ?_, ?_, c.commands_exec addrs, fun t =>
    ⟨_, runAll_insert _ t, runAll_delete_front _ t fun _ => List.reverse_perm _⟩⟩
  · exact (c.rules_eq p .I).trans (by rw [haddrs]; rfl)
  · exact (c.rules_eq p .D).trans (by rw [haddrs]; rfl)

/-- **The server's hooks undo each other, up to order.** For every
    server, `PostUp` and `PostDown` are its commands rendered with `-A`
    and with `-D`, and run one after the other from any tables they leave
    every chain with the rules it held, in some order. -/
theorem ServerConfig.PostDown_undoes_PostUp (c : ServerConfig) :
    c.PostUp = c.commands.map (Command.render .A) ∧
      c.PostDown = c.commands.map (Command.render .D) ∧
      (∀ cmd ∈ c.commands, cmd.exec = "iptables" ∨ cmd.exec = "ip6tables") ∧
      ∀ t, ∃ t' t'', runAll .A c.commands t = some t' ∧ runAll .D c.commands t' = some t'' ∧
        ∀ k, (t'' k).Perm (t k) := by
  refine ⟨c.rules_eq .A, c.rules_eq .D, c.commands_exec, fun t => ?_⟩
  obtain ⟨t'', hd, hp⟩ := runAll_delete_perm c.commands t
    (u := fun k => t k ++ rulesOf c.commands k) fun _ => List.Perm.refl _
  exact ⟨_, t'', runAll_append _ t, hd, hp⟩

/-- **Every rule a hook adds is taken back.** A client's `PreDown` is its
    `PostUp` with `-I` made `-D`, both rendering `ClientConfig.commands`,
    the kill-switch DROP rules included, and it gives back the tables; a
    server's `PostDown` is its `PostUp` with `-A` made `-D`, both
    rendering `ServerConfig.commands`, and it gives back every chain up to
    order. -/
theorem hooks_undo_each_other (p : Parsers) (c : ClientConfig)
    (hparse : ∀ a ∈ c.ExcludeAddrs, ∃ v, p.ParsePrefix a = .ok v) (s : ServerConfig) :
    (∃ addrs, c.GetExcludeAddrs p = .ok addrs ∧
      c.PostUp p = .ok ((c.commands addrs).map (Command.render .I)) ∧
      c.PreDown p = .ok ((c.commands addrs).map (Command.render .D)) ∧
      (∀ cmd ∈ c.commands addrs, cmd.exec = "iptables" ∨ cmd.exec = "ip6tables") ∧
      ∀ t, ∃ t', runAll .I (c.commands addrs) t = some t' ∧
        runAll .D (c.commands addrs) t' = some t) ∧
    (s.PostUp = s.commands.map (Command.render .A) ∧
      s.PostDown = s.commands.map (Command.render .D) ∧
      (∀ cmd ∈ s.commands, cmd.exec = "iptables" ∨ cmd.exec = "ip6tables") ∧
      ∀ t, ∃ t' t'', runAll .A s.commands t = some t' ∧ runAll .D s.commands t' = some t'' ∧
        ∀ k, (t'' k).Perm (t k)) :=
  ⟨c.PreDown_undoes_PostUp p hparse, s.PostDown_undoes_PostUp⟩

/-- Parsers that take every text for a prefix, an IPv6 one when it holds
    a colon. -/
def acceptingParsers : Parsers where
  ParsePrefix s := .ok ⟨s.contains ':', s⟩
  ParseIP _ := true
  NewNetPrefixFromString _ := none
  NewPortFromString _ := .error (.new "invalid port")

/-- A client `wg0` that excludes an IPv4 and an IPv6 prefix. -/
def wg0Client : ClientConfig :=
  ⟨["10.8.0.2/32"], [], ["10.0.0.0/8", "fd00::/8"], 1420, "wg0", none, 51820, ""⟩

/-- A dual-stack server that forwards out of `eth0`. -/
def wg0Server : ServerConfig := ⟨"wg0", "10.8.0.1/24", "fd00::1/64", "eth0", "51820", ""⟩

/-- The hooks of `wg0Client` and `wg0Server` undo each other. -/
theorem hooks_undo_each_other_wg0 :
    (∀ a ∈ wg0Client.ExcludeAddrs, ∃ v, acceptingParsers.ParsePrefix a = .ok v) ∧
    (∃ addrs, wg0Client.GetExcludeAddrs acceptingParsers = .ok addrs ∧
      wg0Client.PostUp acceptingParsers = .ok ((wg0Client.commands addrs).map (Command.render .I)) ∧
      wg0Client.PreDown acceptingParsers = .ok ((wg0Client.commands addrs).map (Command.render .D)) ∧
      (∀ cmd ∈ wg0Client.commands addrs, cmd.exec = "iptables" ∨ cmd.exec = "ip6tables") ∧
      ∀ t, ∃ t', runAll .I (wg0Client.commands addrs) t = some t' ∧
        runAll .D (wg0Client.commands addrs) t' = some t) ∧
    (wg0Server.PostUp = wg0Server.commands.map (Command.render .A) ∧
      wg0Server.PostDown = wg0Server.commands.map (Command.render .D) ∧
      (∀ cmd ∈ wg0Server.commands, cmd.exec = "iptables" ∨ cmd.exec = "ip6tables") ∧
      ∀ t, ∃ t' t'', runAll .A wg0Server.commands t = some t' ∧
        runAll .D wg0Server.commands t' = some t'' ∧ ∀ k, (t'' k).Perm (t k)) :=
  have hparse : ∀ a ∈ wg0Client.ExcludeAddrs, ∃ v, acceptingParsers.ParsePrefix a = .ok v :=
    fun _ _ => ⟨_, rfl⟩
  ⟨hparse, hooks_undo_each_other acceptingParsers wg0Client hparse wg0Server⟩

end Qubetics.Wireguard
