import ClusterConnect.Proofs.Text.Encoding
import ClusterConnect.Proofs.Url.Grammar

/-!
# URLs that are written are read back

* `Server`, `Setting`, `Written`: what can be written into a URL with a server list; `Written.text`
  writes it.
* `Written.value?`: the value that it gives to a name.
* `parse?_text`: the parts of the URL are what has been written; `parseUrl_text`: so are the
  properties.
-/

namespace ClusterConnect

open Text

/-! ## Writing -/

/-- A server that can be written into a URL. A host without a port must not look like one with a
port. -/
structure Server where
  host : String
  port : Option Nat
  host_plain : ',' ∉ host.toList ∧ '/' ∉ host.toList ∧ '?' ∉ host.toList
  port_range : ∀ n, port = some n → 1 ≤ n ∧ n ≤ 65535
  host_alone : port = none → ∀ p, ¬ PortText host.toList p

/-- A setting that can be written into a URL. -/
structure Setting where
  name : String
  value : String
  name_ne : name.toList ≠ []
  name_plain : '&' ∉ name.toList ∧ '=' ∉ name.toList

/-- What a URL with a server list says. -/
structure Written where
  mode : Mode
  servers : List Server
  servers_ne : servers ≠ []
  database : String
  settings : List Setting

namespace Server

/-- The item of the server list. -/
def token (s : Server) : List Char :=
  match s.port with
  | none => s.host.toList
  | some n => s.host.toList ++ ':' :: decimalDigits n

/-- The host and the port as they are read. -/
def address (s : Server) : Address := ⟨s.host, s.port.map fun n => String.ofList (decimalDigits n)⟩

end Server

/-- The token of the query. -/
def Setting.token (s : Setting) : List Char :=
  s.name.toList ++ '=' :: Percent.encodeText s.value.toList

namespace Written

/-- What stands between the scheme and the question mark. -/
def body (w : Written) : List Char :=
  '/' :: '/' :: (join ',' (w.servers.map Server.token) ++
    '/' :: Percent.encodeText w.database.toList)

/-- What stands behind the question mark. -/
def query (w : Written) : List Char := join '&' (w.settings.map Setting.token)

/-- The URL. -/
def text (w : Written) : String :=
  String.ofList (w.mode.scheme.toList ++ w.body ++ '?' :: w.query)

/-- The parts of the URL. -/
def url (w : Written) : Url where
  mode := w.mode
  target := .servers (w.servers.map Server.address) w.database
  arguments := w.settings.map fun s => (s.name, s.value)

/-- The value of the last setting of a name. -/
def setting? (w : Written) (k : String) : Option String :=
  (w.settings.reverse.find? (·.name == k)).map Setting.value

/-- The value that the servers and the database give to a name. -/
def server? (w : Written) (k : String) : Option String :=
  if k = Property.host.name then some (commaList (w.servers.map Server.host))
  else if k = Property.port.name then
    some (commaList (w.servers.map fun s => String.ofList (decimalDigits (s.port.getD defaultPort))))
  else if k = Property.database.name then some w.database
  else none

/-- The value of a name: settings count before servers. -/
def value? (w : Written) (k : String) : Option String := (w.setting? k).or (w.server? k)

end Written

/-! ## Reading the server list -/

variable {url : String}

theorem isPort_decimalDigits {n : Nat} (h : 1 ≤ n ∧ n ≤ 65535) : IsPort (decimalDigits n) :=
  ⟨Nat.toDigits_ne_nil, fun _ hc => isDigit_of_mem_decimalDigits hc, by
    rwa [digitsValue_decimalDigits]⟩

theorem checkPort_decimalDigits {n : Nat} (h : 1 ≤ n ∧ n ≤ 65535) :
    checkPort (decimalDigits n) url = .ok () := by
  have hlen : (decimalDigits n).length ≤ 5 :=
    (Nat.length_toDigits_le_iff (by decide) (by decide)).mpr (by omega)
  have hshort : (decimalDigits n).length ≤ Number.maxIntegerDigits := by
    apply Nat.le_trans hlen
    decide
  rcases checkPort_cases url fun _ => hshort with ⟨-, ho⟩ | ⟨hn, -⟩
  · exact ho
  · exact absurd (isPort_decimalDigits h) hn

theorem not_mem_decimalDigits {c : Char} (h : c.isDigit = false) (n : Nat) : c ∉ decimalDigits n := by
  intro hc
  simp [isDigit_of_mem_decimalDigits hc] at h

/-- A server is read back from its item. -/
theorem Server.parse_token (s : Server) : Address.parse s.token url = .ok s.address := by
  unfold Address.parse Server.token Server.address
  cases hp : s.port with
  | none =>
    have hc : cutLast ':' ']' s.host.toList = none := by
      apply Option.eq_none_iff_forall_ne_some.mpr
      intro p hc
      exact s.host_alone hp p.2 ⟨p.1, cutLast_eq_some_iff.mp hc⟩
    simp only [hc, String.ofList_toList]
    rfl
  | some n =>
    have hc := cutLast_append (a := s.host.toList) (not_mem_decimalDigits (c := ':') rfl n)
      (not_mem_decimalDigits (c := ']') rfl n)
    simp only [hc, checkPort_decimalDigits (s.port_range n hp), String.ofList_toList]
    rfl

theorem parseAll_tokens (ss : List Server) :
    Address.parseAll url (ss.map Server.token) = .ok (ss.map Server.address) := by
  induction ss with
  | nil => rfl
  | cons s ss ih => simp only [List.map_cons, Address.parseAll, s.parse_token, ih]

/-- What cannot stand in a host does not stand in an item. -/
theorem Server.not_mem_token (s : Server) {c : Char} (h : c ∉ s.host.toList) (hc : c ≠ ':')
    (hd : c.isDigit = false) : c ∉ s.token := by
  unfold Server.token
  cases s.port with
  | none => exact h
  | some n =>
    simp only [List.mem_append, List.mem_cons, not_or]
    exact ⟨h, hc, not_mem_decimalDigits hd n⟩

theorem Written.not_mem_list (w : Written) {c : Char} (h : ∀ s ∈ w.servers, c ∉ s.host.toList)
    (hc : c ≠ ':') (hs : c ≠ ',') (hd : c.isDigit = false) :
    c ∉ join ',' (w.servers.map Server.token) := by
  intro hm
  rcases mem_join hm with rfl | ⟨token, ht, hm⟩
  · exact hs rfl
  · obtain ⟨s, hmem, rfl⟩ := List.mem_map.mp ht
    exact s.not_mem_token (h s hmem) hc hd hm

/-- The servers and the database are read back from the body. -/
theorem Written.parse_body (w : Written) :
    Target.parse w.body url = .ok (.servers (w.servers.map Server.address) w.database) := by
  have hterm : '/' ∉ join ',' (w.servers.map Server.token) :=
    w.not_mem_list (fun s _ => s.host_plain.2.1) (by decide) (by decide) rfl
  have hsplit : (join ',' (w.servers.map Server.token)).splitOn ',' = w.servers.map Server.token := by
    apply splitOn_join
    · intro token ht
      obtain ⟨s, -, rfl⟩ := List.mem_map.mp ht
      exact s.not_mem_token s.host_plain.1 (by decide) rfl
    · simp [w.servers_ne]
  have hfront : afterPrefix? ['/', '/'] w.body =
      some (join ',' (w.servers.map Server.token) ++ '/' :: Percent.encodeText w.database.toList) :=
    rfl
  unfold Target.parse
  simp only [hfront, cut_append hterm, hsplit, parseAll_tokens, Percent.decodeText_encodeText,
    String.ofList_toList]

/-! ## Reading the query -/

theorem Setting.parse_token (s : Setting) : parseArgument s.token = (s.name, s.value) := by
  unfold parseArgument Setting.token
  simp only [cut_append s.name_plain.2, Percent.decodeText_encodeText, String.ofList_toList]

/-- The settings are read back from the query. -/
theorem Written.parseArguments_query (w : Written) :
    parseArguments w.query = w.settings.map fun s => (s.name, s.value) := by
  unfold parseArguments Written.query
  cases hs : w.settings with
  | nil => rfl
  | cons s ss =>
    -- No token holds the separator, and none is empty, since its name is not.
    have hsplit : (join '&' ((s :: ss).map Setting.token)).splitOn '&' =
        (s :: ss).map Setting.token := by
      apply splitOn_join
      · intro token ht
        obtain ⟨s, -, rfl⟩ := List.mem_map.mp ht
        simp only [Setting.token, List.mem_append, List.mem_cons, not_or]
        exact ⟨s.name_plain.1, by decide, Percent.not_mem_encodeText (by decide) rfl _⟩
      · simp
    have hfilter : ((s :: ss).map Setting.token).filter (!·.isEmpty) =
        (s :: ss).map Setting.token := by
      apply List.filter_eq_self.mpr
      intro token ht
      obtain ⟨s, -, rfl⟩ := List.mem_map.mp ht
      simp [Setting.token]
    rw [hsplit, hfilter, List.map_map]
    apply List.map_congr_left
    intro s _
    exact s.parse_token

/-! ## Reading the URL -/

theorem splitScheme?_scheme (mode : Mode) (rest : List Char) :
    splitScheme? (mode.scheme.toList ++ '/' :: rest) = some (mode, '/' :: rest) := by
  cases mode with
  | clusterAware =>
    unfold splitScheme? Mode.scheme
    simp only [afterPrefix?_append]
  | plain =>
    -- A slash follows the plain scheme, where the cluster scheme goes on with a letter.
    have hn : afterPrefix? Mode.clusterScheme.toList (Mode.plainScheme.toList ++ '/' :: rest) = none :=
      rfl
    unfold splitScheme? Mode.scheme
    simp only [hn, afterPrefix?_append, Option.map_some]

theorem Written.not_mem_server (w : Written) : '?' ∉ w.mode.scheme.toList ++ w.body := by
  have hscheme : '?' ∉ w.mode.scheme.toList := by cases w.mode <;> decide
  have hlist : '?' ∉ join ',' (w.servers.map Server.token) :=
    w.not_mem_list (fun s _ => s.host_plain.2.2) (by decide) (by decide) rfl
  have hname := Percent.not_mem_encodeText (c := '?') (by decide) rfl w.database.toList
  simp only [Written.body, List.mem_append, List.mem_cons, not_or]
  exact ⟨hscheme, by decide, by decide, hlist, by decide, hname⟩

/-- **What has been written is read back**, part by part. -/
theorem Written.parse?_text (w : Written) :
    Url.parse? w.text = .ok (some w.url) := by
  have hscheme : splitScheme? (w.mode.scheme.toList ++ w.body) = some (w.mode, w.body) :=
    splitScheme?_scheme w.mode _
  unfold Url.parse? Written.text
  simp only [String.toList_ofList, cut_append w.not_mem_server, hscheme, w.parse_body,
    Option.getD_some, w.parseArguments_query]
  rfl

/-! ## Properties -/

theorem Written.lookup_arguments (w : Written) (k : String) :
    w.url.arguments.reverse.lookup k = w.setting? k := by
  unfold Written.url Written.setting?
  rw [← List.map_reverse]
  induction w.settings.reverse with
  | nil => rfl
  | cons s ss ih =>
    rw [List.map_cons, lookup_entry]
    by_cases h : k = s.name
    · rw [if_pos h, List.find?_cons_of_pos (by simp [h])]
      rfl
    · rw [if_neg h, List.find?_cons_of_neg (by simp [Ne.symm h])]
      exact ih

theorem Written.get?_apply (w : Written) (k : String) :
    (w.url.target.apply .empty).get? k = w.server? k := by
  have hhosts : (w.servers.map Server.address).map Address.host = w.servers.map Server.host := by
    simp [Server.address]
  have hports : (w.servers.map Server.address).map (fun a => a.port.getD defaultPortText) =
      w.servers.map fun s => String.ofList (decimalDigits (s.port.getD defaultPort)) := by
    rw [List.map_map]
    apply List.map_congr_left
    intro s _
    simp only [Function.comp, Server.address]
    cases s.port <;> rfl
  unfold Written.url Target.apply Written.server?
  simp only [hhosts, hports, Properties.get?_insert, Properties.get?_empty]
  by_cases hp : k = Property.port.name
  · have hh : k ≠ Property.host.name := by rw [hp]; decide
    rw [if_pos hp, if_neg hh, if_pos hp]
  · rw [if_neg hp, if_neg hp]

/-- The properties of the URL are those that have been written. -/
theorem Written.get?_properties (w : Written) (k : String) :
    (w.url.properties .empty).get? k = w.value? k := by
  rw [Url.properties, Properties.get?_insertAll, w.lookup_arguments, w.get?_apply, Written.value?]

theorem Written.strictMode_properties (w : Written) (strict : Bool) :
    strictMode (w.url.properties .empty) strict =
      ((w.setting? Property.clusterUrlsOnly.name).map Property.saysTrue).getD strict := by
  have hserver : w.server? Property.clusterUrlsOnly.name = none := by
    unfold Written.server?
    rw [if_neg (by decide), if_neg (by decide), if_neg (by decide)]
  rw [strictMode_eq, w.get?_properties, Written.value?, hserver, Option.or_none]

theorem Written.ofUrl_text (w : Written) (h : w.mode = .clusterAware) :
    Mode.ofUrl w.text = .clusterAware := by
  have hp : Mode.clusterScheme.toList <+: w.text.toList := by
    unfold Written.text
    rw [String.toList_ofList, h, List.append_assoc]
    exact List.prefix_append _ _
  exact if_pos (List.isPrefixOf_iff_prefix.mpr hp)

/-- **Reading undoes writing.** Any list of servers, with any database and any settings, written into
a URL of either scheme, gives exactly the properties that were written, the last setting of a name
winning over the others and over the servers; provided that strict mode does not refuse the URL. -/
theorem parseUrl_text (w : Written) (strict : Bool)
    (h : w.mode = .clusterAware ∨
      ((w.setting? Property.clusterUrlsOnly.name).map Property.saysTrue).getD strict = false) :
    ∃ p, parseUrl (some w.text) .empty strict = .ok (some p) ∧ ∀ k, p.get? k = w.value? k := by
  refine ⟨_, ?_, w.get?_properties⟩
  simp only [parseUrl, w.parse?_text, w.strictMode_properties]
  -- Strict mode would have to hold, and the scheme to be the plain one.
  apply if_neg
  rw [Bool.and_eq_true]
  rintro ⟨hs, hm⟩
  rcases h with h | h
  · exact absurd hm (by simp [w.ofUrl_text h])
  · exact absurd hs (by simp [h])

/-- Two servers, one of them in brackets, and a setting that is given twice. -/
def Written.sample : Written where
  mode := .plain
  servers :=
    [{ host := "[::1]"
       port := some 5433
       host_plain := by decide
       port_range := by simp
       host_alone := nofun },
     { host := "db"
       port := none
       host_plain := by decide
       port_range := nofun
       host_alone := fun _ p hp => by
         obtain ⟨host, h, -⟩ := hp
         have hm : ':' ∈ "db".toList := by simp [h]
         exact absurd hm (by decide) }]
  servers_ne := by simp
  database := "my/db"
  settings :=
    [⟨"note", "a=b", by decide, by decide⟩, ⟨"note", "50%&é", by decide, by decide⟩]

/-- The sample is read back, with the later of the two values. -/
theorem parseUrl_sample :
    ((Written.sample.setting? Property.clusterUrlsOnly.name).map Property.saysTrue).getD false =
        false ∧
      ∃ p, parseUrl (some Written.sample.text) .empty false = .ok (some p) ∧
        p.get? "PGHOST" = some "[::1],db" ∧ p.get? "PGPORT" = some "5433,5432" ∧
          p.get? "PGDBNAME" = some "my/db" ∧ p.get? "note" = some "50%&é" := by
  have hs : ((Written.sample.setting? Property.clusterUrlsOnly.name).map
      Property.saysTrue).getD false = false := by decide
  obtain ⟨p, hp, hk⟩ := parseUrl_text Written.sample false (.inr hs)
  exact ⟨hs, p, hp, (hk _).trans (by decide), (hk _).trans (by decide), (hk _).trans (by decide),
    (hk _).trans (by decide)⟩

end ClusterConnect
