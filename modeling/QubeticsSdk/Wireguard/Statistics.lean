import QubeticsSdk.Utils.Strconv
import QubeticsSdk.Vpn.Types

/-! # Transfer statistics of the WireGuard server and client

    `Server.PeerStatistics` and `Client.Statistics` of package `wireguard`
    run `wg show <iface> transfer` and read its output: a line per peer,
    the peer's key and two byte counters separated by tabs. The loop of
    both splits the output into lines, skips a line that does not split
    into exactly three columns, and parses the counters with
    `strconv.ParseInt(_, 10, 64)`, the second column as the upload and the
    third as the download (`transferColumns`). The server collects an
    entry per line (`collectPeers`); the client returns at the first line,
    and `(0, 0)` when there is none (`firstTransfer`).

    Results:
    * the server reads back every peer of a listing in order, for keys
      without tab or newline and counters within `int64`
      (`PeerStatistics_transferOutput`), and every entry it returns is of
      that kind (`PeerStatistics_listable`);
    * the client's answer is the first entry of the server's, and the
      client fails only where the server fails, with the same error
      (`Statistics_agrees`).

    `interfaceName` is not under `src/`: the model takes its answer from
    the host, with the output of `wg`.
-/

namespace Qubetics.Wireguard

open Strconv Vpn

/-! ## Section 1: Model -/

/-- What the host answers during one call: `interfaceName()`, and the
    output of `wg` run with the arguments of this text. -/
structure StatsHost where
  interfaceName : Except Error String
  Output : String → Except Error String

/-- The body of the loop of both functions for one line: `none` for a
    line that does not split into three columns (`continue`), else its
    key, upload and download bytes, or the error of the first counter that
    does not parse. -/
def transferColumns (line : String) : Option (Except Error (String × Int × Int)) :=
  match stringsSplit line '\t' with
  | [key, up, down] =>
    some <| match ParseInt up 64 with
      | .error e => .error (.errorf "failed to parse upload bytes: " e.toError)
      | .ok uploadBytes =>
        match ParseInt down 64 with
        | .error e => .error (.errorf "failed to parse download bytes: " e.toError)
        | .ok downloadBytes => .ok (key, uploadBytes, downloadBytes)
  | _ => none

/-- The loop of `PeerStatistics` over the lines, appending to `items`. -/
def collectPeers (items : List PeerStatistic) : List String → Except Error (List PeerStatistic)
  | [] => .ok items
  | line :: lines =>
    match transferColumns line with
    | none => collectPeers items lines
    | some (.error err) => .error err
    | some (.ok (key, up, down)) => collectPeers (items ++ [⟨key, down, up⟩]) lines

/-- `s.PeerStatistics(ctx)`. -/
def Server.PeerStatistics (h : StatsHost) : Result (List PeerStatistic) :=
  match h.interfaceName with
  | .error err => .err (.errorf "failed to get interface name: " err)
  | .ok iface =>
    match h.Output ("show " ++ iface ++ " transfer") with
    | .error err => .err (.errorf "failed to run command: " err)
    | .ok output => Result.ofExcept (collectPeers [] (stringsSplit output '\n'))

/-- The loop of `Statistics` over the lines: the upload and download bytes
    of the first line with three columns. -/
def firstTransfer : List String → Except Error (Int × Int)
  | [] => .ok (0, 0)
  | line :: lines =>
    match transferColumns line with
    | none => firstTransfer lines
    | some (.error err) => .error err
    | some (.ok (_, up, down)) => .ok (up, down)

/-- `c.Statistics(ctx)`: the upload and download bytes. -/
def Client.Statistics (h : StatsHost) : Result (Int × Int) :=
  match h.interfaceName with
  | .error err => .err (.errorf "failed to get interface name: " err)
  | .ok iface =>
    match h.Output ("show " ++ iface ++ " transfer") with
    | .error err => .err (.errorf "failed to run command: " err)
    | .ok output => Result.ofExcept (firstTransfer (stringsSplit output '\n'))

/-! ## Section 2: Listings -/

/-- The line of a listing for the entry `p`: its key, upload and download
    bytes, separated by tabs. -/
def transferLine (p : PeerStatistic) : String :=
  p.Key ++ "\t" ++ Itoa p.UploadBytes ++ "\t" ++ Itoa p.DownloadBytes

/-- The listing `wg show <iface> transfer` prints for the entries `ps`: a
    line each, every line ended by a newline. -/
def transferOutput (ps : List PeerStatistic) : String :=
  String.join (ps.map fun p => transferLine p ++ "\n")

/-- An entry a listing can carry: a key without tab or newline, and
    counters within `int64`. -/
def Listable (p : PeerStatistic) : Prop :=
  '\t' ∉ p.Key.data ∧ '\n' ∉ p.Key.data ∧
    (-(2 ^ 63 : Int) ≤ p.UploadBytes ∧ p.UploadBytes < 2 ^ 63) ∧
    (-(2 ^ 63 : Int) ≤ p.DownloadBytes ∧ p.DownloadBytes < 2 ^ 63)

instance (p : PeerStatistic) : Decidable (Listable p) := inferInstanceAs (Decidable (_ ∧ _))

/-! ## Section 3: Splitting -/

/-- A piece of `xs` split on `x` holds no `x`, and only characters of
    `xs`. -/
theorem mem_splitOnP {x : Char} : ∀ {xs l : List Char}, l ∈ xs.splitOnP (· == x) →
    x ∉ l ∧ ∀ c ∈ l, c ∈ xs
  | [], l, h => by
    rw [List.splitOnP_nil, List.mem_singleton] at h
    subst h
    simp
  | a :: xs, l, h => by
    rw [List.splitOnP_cons] at h
    by_cases hax : a = x
    · rw [if_pos (by simp [hax])] at h
      rcases List.mem_cons.mp h with rfl | h
      · simp
      · exact ⟨(mem_splitOnP h).1, fun c hc => List.mem_cons_of_mem _ ((mem_splitOnP h).2 c hc)⟩
    · rw [if_neg (by simp [hax])] at h
      rcases hs : xs.splitOnP (· == x) with _ | ⟨hd, tl⟩
      · exact absurd hs (List.splitOnP_ne_nil _ _)
      · rw [hs] at h
        have hhd := @mem_splitOnP x xs hd (hs ▸ List.mem_cons_self _ _)
        rcases List.mem_cons.mp h with rfl | h
        · refine ⟨fun hx => ?_, fun c hc => ?_⟩
          · rcases List.mem_cons.mp hx with hx | hx
            · exact hax hx.symm
            · exact hhd.1 hx
          · rcases List.mem_cons.mp hc with rfl | hc
            · exact List.mem_cons_self _ _
            · exact List.mem_cons_of_mem _ (hhd.2 c hc)
        · have htl := @mem_splitOnP x xs l (hs ▸ List.mem_cons_of_mem _ h)
          exact ⟨htl.1, fun c hc => List.mem_cons_of_mem _ (htl.2 c hc)⟩

theorem mem_stringsSplit {s l : String} {x : Char} (h : l ∈ stringsSplit s x) :
    x ∉ l.data ∧ ∀ c ∈ l.data, c ∈ s.data := by
  obtain ⟨l', hl', rfl⟩ := List.mem_map.mp h
  exact mem_splitOnP hl'

theorem splitOnP_append_sep {x : Char} {xs : List Char} (hx : x ∉ xs) (as : List Char) :
    (xs ++ x :: as).splitOnP (· == x) = xs :: as.splitOnP (· == x) :=
  List.splitOnP_first _ xs (fun c hc => by simp only [beq_iff_eq]; rintro rfl; exact hx hc) x (by simp) as

theorem splitOnP_of_not_mem {x : Char} {xs : List Char} (hx : x ∉ xs) :
    xs.splitOnP (· == x) = [xs] :=
  List.splitOnP_eq_single _ xs fun c hc => by simp only [beq_iff_eq]; rintro rfl; exact hx hc

theorem data_join (ls : List String) : (String.join ls).data = (ls.map String.data).flatten := by
  suffices ∀ acc : String, (ls.foldl (· ++ ·) acc).data = acc.data ++ (ls.map String.data).flatten from
    this ""
  induction ls with
  | nil => intro acc; simp
  | cons l ls ih => intro acc; simp [ih]

/-- The text `Itoa` writes: digits, after `-` for a negative. -/
theorem mem_Itoa {v : Int} {c : Char} (h : c ∈ (Itoa v).data) : c.isDigit = true ∨ c = '-' := by
  cases v with
  | ofNat m => exact .inl ((toDigits_spec m).2.1 c h)
  | negSucc m =>
    rcases List.mem_cons.mp h with rfl | h
    · exact .inr rfl
    · exact .inl ((toDigits_spec (m + 1)).2.1 c h)

theorem tab_not_mem_Itoa (v : Int) : '\t' ∉ (Itoa v).data := fun h => by
  rcases mem_Itoa h with h | h <;> simp_all [Char.isDigit]

theorem newline_not_mem_Itoa (v : Int) : '\n' ∉ (Itoa v).data := fun h => by
  rcases mem_Itoa h with h | h <;> simp_all [Char.isDigit]

/-! ## Section 4: Reading a listing back -/

theorem ParseInt_Itoa_64 {v : Int} (h1 : -(2 ^ 63 : Int) ≤ v) (h2 : v < 2 ^ 63) :
    ParseInt (Itoa v) 64 = .ok v := by
  rw [ParseInt_Itoa v (by decide) (by decide), if_pos ⟨h1, h2⟩]

theorem transferColumns_transferLine {p : PeerStatistic} (hp : Listable p) :
    transferColumns (transferLine p) = some (.ok (p.Key, p.UploadBytes, p.DownloadBytes)) := by
  obtain ⟨htab, -, ⟨hu1, hu2⟩, ⟨hd1, hd2⟩⟩ := hp
  have hsplit : stringsSplit (transferLine p) '\t' = [p.Key, Itoa p.UploadBytes, Itoa p.DownloadBytes] := by
    simp only [stringsSplit, transferLine, String.toList, String.data_append, List.append_assoc,
      List.singleton_append, List.cons_append, List.nil_append]
    rw [List.splitOn, splitOnP_append_sep htab, splitOnP_append_sep (tab_not_mem_Itoa _),
      splitOnP_of_not_mem (tab_not_mem_Itoa _)]
    rfl
  simp only [transferColumns, hsplit, ParseInt_Itoa_64 hu1 hu2, ParseInt_Itoa_64 hd1 hd2]

theorem stringsSplit_transferOutput {ps : List PeerStatistic} (hwf : ∀ p ∈ ps, Listable p) :
    stringsSplit (transferOutput ps) '\n' = ps.map transferLine ++ [""] := by
  have hline : ∀ p ∈ ps, '\n' ∉ (transferLine p).data := fun p hp h => by
    simp only [transferLine, String.data_append, List.mem_append] at h
    rcases h with ((((h | h) | h) | h) | h)
    · exact (hwf p hp).2.1 h
    · simp at h
    · exact newline_not_mem_Itoa _ h
    · simp at h
    · exact newline_not_mem_Itoa _ h
  simp only [stringsSplit, transferOutput, String.toList, data_join, List.map_map]
  induction ps with
  | nil => rfl
  | cons p ps ih =>
    simp only [List.map_cons, List.flatten_cons, Function.comp_apply, String.data_append,
      List.append_assoc, List.singleton_append, List.cons_append]
    rw [List.splitOn, splitOnP_append_sep (hline p (List.mem_cons_self _ _)), List.map_cons]
    exact congrArg _ (ih (fun q hq => hwf q (List.mem_cons_of_mem _ hq))
      (fun q hq => hline q (List.mem_cons_of_mem _ hq)))

theorem collectPeers_transferLines (items : List PeerStatistic) {ps : List PeerStatistic}
    (hwf : ∀ p ∈ ps, Listable p) :
    collectPeers items (ps.map transferLine ++ [""]) = .ok (items ++ ps) := by
  induction ps generalizing items with
  | nil => simp only [List.map_nil, List.nil_append, List.append_nil]; rfl
  | cons p ps ih =>
    rw [List.map_cons, List.cons_append]
    simp only [collectPeers, transferColumns_transferLine (hwf p (List.mem_cons_self _ _))]
    refine (ih _ (fun q hq => hwf q (List.mem_cons_of_mem _ hq))).trans ?_
    rw [List.append_assoc]
    rfl

/-- **The server reads a listing back.** When `wg` lists the entries
    `ps`, each with a key without tab or newline and counters within
    `int64`, `PeerStatistics` returns exactly `ps`, in order. -/
theorem PeerStatistics_transferOutput (h : StatsHost) {iface : String}
    (hi : h.interfaceName = .ok iface) {ps : List PeerStatistic}
    (hout : h.Output ("show " ++ iface ++ " transfer") = .ok (transferOutput ps))
    (hwf : ∀ p ∈ ps, Listable p) : Server.PeerStatistics h = .ok ps := by
  simp only [Server.PeerStatistics, hi, hout, stringsSplit_transferOutput hwf,
    collectPeers_transferLines [] hwf, List.nil_append, Result.ofExcept_ok]

/-- Two peers of `wg0`. -/
def wg0Peers : List PeerStatistic := [⟨"peerA=", 2048, 1024⟩, ⟨"peerB=", 0, 512⟩]

/-- A host on which `wg show wg0 transfer` lists `wg0Peers`. -/
def wg0StatsHost : StatsHost :=
  ⟨.ok "wg0", fun args => if args = "show wg0 transfer" then .ok (transferOutput wg0Peers) else .error (.new "exit status 1")⟩

theorem PeerStatistics_transferOutput_wg0 : Server.PeerStatistics wg0StatsHost = .ok wg0Peers :=
  PeerStatistics_transferOutput wg0StatsHost rfl rfl (by decide)

/-! ## Section 5: What the server accepts -/

/-- A line the loop reads: its key is a column of the line, and both
    counters are within `int64`. -/
theorem transferColumns_eq_ok {line key : String} {up down : Int}
    (h : transferColumns line = some (.ok (key, up, down))) :
    key ∈ stringsSplit line '\t' ∧ (-(2 ^ 63 : Int) ≤ up ∧ up < 2 ^ 63) ∧
      (-(2 ^ 63 : Int) ≤ down ∧ down < 2 ^ 63) := by
  unfold transferColumns at h
  split at h
  · rename_i k u d hsplit
    rcases hu : ParseInt u 64 with e | up'
    · simp [hu] at h
    · rcases hd : ParseInt d 64 with e | down'
      · simp [hu, hd] at h
      · simp only [hu, hd, Option.some.injEq, Except.ok.injEq, Prod.mk.injEq] at h
        obtain ⟨rfl, rfl, rfl⟩ := h
        exact ⟨hsplit ▸ List.mem_cons_self _ _, ParseInt_range hu, ParseInt_range hd⟩
  · cases h

theorem collectPeers_listable {items result : List PeerStatistic} {lines : List String}
    (hlines : ∀ line ∈ lines, '\n' ∉ line.data) (hitems : ∀ p ∈ items, Listable p)
    (h : collectPeers items lines = .ok result) : ∀ p ∈ result, Listable p := by
  induction lines generalizing items with
  | nil => cases h; exact hitems
  | cons line lines ih =>
    have hrest : ∀ line ∈ lines, '\n' ∉ line.data := fun l hl => hlines l (List.mem_cons_of_mem _ hl)
    unfold collectPeers at h
    rcases hc : transferColumns line with _ | (e | ⟨key, up, down⟩)
    · rw [hc] at h
      exact ih hrest hitems h
    · rw [hc] at h
      cases h
    · rw [hc] at h
      obtain ⟨hkey, hup, hdown⟩ := transferColumns_eq_ok hc
      have hk := mem_stringsSplit hkey
      refine ih hrest (fun p hp => ?_) h
      rcases List.mem_append.mp hp with hp | hp
      · exact hitems p hp
      · rw [List.mem_singleton.mp hp]
        exact ⟨hk.1, fun hn => hlines line (List.mem_cons_self _ _) (hk.2 _ hn), hup, hdown⟩

/-- **What the server accepts is a listing.** Every entry
    `PeerStatistics` returns has a key without tab or newline and counters
    within `int64`: it is an entry a listing can carry, and reads back. -/
theorem PeerStatistics_listable (h : StatsHost) {items : List PeerStatistic}
    (hok : Server.PeerStatistics h = .ok items) : ∀ p ∈ items, Listable p := by
  unfold Server.PeerStatistics at hok
  rcases hi : h.interfaceName with e | iface
  · simp [hi] at hok
  · rcases ho : h.Output ("show " ++ iface ++ " transfer") with e | output
    · simp [hi, ho] at hok
    · simp only [hi, ho, Result.ofExcept_eq_ok] at hok
      exact collectPeers_listable (fun line hl => (mem_stringsSplit hl).1) (by simp) hok

theorem PeerStatistics_listable_wg0 :
    Server.PeerStatistics wg0StatsHost = .ok wg0Peers ∧ ∀ p ∈ wg0Peers, Listable p :=
  ⟨by decide, PeerStatistics_listable wg0StatsHost (by decide)⟩

/-! ## Section 6: The client against the server -/

theorem collectPeers_eq_map (items : List PeerStatistic) (lines : List String) :
    collectPeers items lines = (collectPeers [] lines).map (items ++ ·) := by
  induction lines generalizing items with
  | nil => simp [collectPeers, Except.map]
  | cons line lines ih =>
    unfold collectPeers
    rcases hc : transferColumns line with _ | (e | ⟨key, up, down⟩)
    · exact ih items
    · rfl
    · simp only [List.nil_append]
      rw [ih, ih [⟨key, down, up⟩]]
      cases collectPeers [] lines <;> simp [Except.map]

/-- The client's loop reads the first entry the server's loop collects. -/
theorem firstTransfer_of_collectPeers (lines : List String) :
    (∀ items, collectPeers [] lines = .ok items →
      firstTransfer lines = .ok ((items.head?.map fun p => (p.UploadBytes, p.DownloadBytes)).getD (0, 0))) ∧
    (∀ e, firstTransfer lines = .error e → collectPeers [] lines = .error e) := by
  induction lines with
  | nil => exact ⟨fun items h => by cases h; rfl, fun e h => by cases h⟩
  | cons line lines ih =>
    unfold collectPeers firstTransfer
    rcases hc : transferColumns line with _ | (e | ⟨key, up, down⟩) <;> dsimp only
    · exact ih
    · exact ⟨fun _ h => (by cases h), fun _ h => (by cases h; rfl)⟩
    · refine ⟨fun items h => ?_, fun _ h => (by cases h)⟩
      rw [collectPeers_eq_map] at h
      cases hr : collectPeers [] lines <;> rw [hr] at h <;> cases h
      rfl

/-- **The client reads what the server reads first.** On the same answers
    of the host, when `PeerStatistics` succeeds, `Statistics` returns the
    upload and download bytes of its first entry, or `(0, 0)` when there
    is none; and when `Statistics` fails, `PeerStatistics` fails with the
    same error. -/
theorem Statistics_agrees (h : StatsHost) :
    (∀ items, Server.PeerStatistics h = .ok items →
      Client.Statistics h = .ok ((items.head?.map fun p => (p.UploadBytes, p.DownloadBytes)).getD (0, 0))) ∧
    (∀ e, Client.Statistics h = .err e → Server.PeerStatistics h = .err e) := by
  unfold Server.PeerStatistics Client.Statistics
  rcases hi : h.interfaceName with e | iface <;> dsimp only
  · exact ⟨fun _ h => (by cases h), fun _ h => (by cases h; rfl)⟩
  · rcases ho : h.Output ("show " ++ iface ++ " transfer") with e | output <;> dsimp only
    · exact ⟨fun _ h => (by cases h), fun _ h => (by cases h; rfl)⟩
    · have hagree := firstTransfer_of_collectPeers (stringsSplit output '\n')
      simp only [Result.ofExcept_eq_ok]
      refine ⟨fun items hok => by rw [hagree.1 items hok], fun e herr => ?_⟩
      cases hf : firstTransfer (stringsSplit output '\n') with
      | error e' =>
        rw [hf] at herr
        cases herr
        rw [hagree.2 _ hf]
        rfl
      | ok r => rw [hf] at herr; cases herr

/-- On `wg0`'s answers the client reads the first peer's transfer. -/
theorem Statistics_agrees_wg0 :
    Client.Statistics wg0StatsHost =
      .ok ((wg0Peers.head?.map fun p => (p.UploadBytes, p.DownloadBytes)).getD (0, 0)) :=
  (Statistics_agrees wg0StatsHost).1 wg0Peers (by decide)

end Qubetics.Wireguard
