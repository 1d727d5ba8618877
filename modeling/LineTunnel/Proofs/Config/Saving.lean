import LineTunnel.Config.File
import LineTunnel.Proofs.Toml.Document

/-! A configuration that was saved and is loaded again. All of it is kept, whatever its texts and
numbers are, but for one thing: what is absent is not written, and is read as its default, so a link
that strips nothing comes back as one that strips the default. -/

namespace LineTunnel.Config

open Toml (Plain Section Value Table)

/-! ### Values -/

theorem natural_integer {bound n : Nat} (h : n < bound) : natural bound (.integer n) = some n := by
  unfold natural
  exact if_pos ⟨Int.natCast_nonneg n, h⟩

theorem byte_integer (b : UInt8) : byte (.integer b.toNat) = some b := by
  unfold byte
  rw [natural_integer b.toNat_lt]
  simp

theorem port_integer (p : UInt16) : port (.integer p.toNat) = some p := by
  unfold port
  rw [natural_integer p.toNat_lt]
  simp

theorem milliseconds_integer (ms : UInt64) : milliseconds (.integer ms.toNat) = some ms := by
  unfold milliseconds
  rw [natural_integer ms.toNat_lt]
  simp

namespace Source

variable {α β : Type} {t : Table} {name : String}

theorem take_some {v : Value} (h : t.get? name = some v) (convert : Value → Option α) {a : α}
    (hconvert : convert v = some a) (place : Nat) (default : α) :
    (named t).take place name convert default = .ok a := by
  unfold take
  dsimp only
  rw [h]
  dsimp only
  rw [hconvert]

theorem take_map {o : Option β} {write : β → Value} (h : t.get? name = o.map write)
    (convert : Value → Option β) (hconvert : ∀ b, convert (write b) = some b) (place : Nat)
    (default : Option β) :
    (named t).take place name (fun v => (convert v).map some) default = .ok (o.or default) := by
  cases o with
  | none =>
    unfold take
    dsimp only
    rw [h]
    rfl
  | some b => exact take_some h _ (congrArg (Option.map some) (hconvert b)) place default

end Source

/-! ### Tables -/

theorem get?_link (link : LinkSettings) {t : Table} (ht : t = Section.values link.entries) :
    t.get? "host" = some (.string link.host) ∧
    t.get? "port" = some (.integer link.port.toNat) ∧
    t.get? "bind_addr" = link.bindAddress.map .string ∧
    t.get? "terminator" = some (.integer link.terminator.toNat) ∧
    t.get? "strip" = link.strip.map (fun byte => .integer byte.toNat) ∧
    t.get? "connect_timeout_ms" = some (.integer link.connectTimeout.toNat) ∧
    t.get? "recv_timeout_ms" = some (.integer link.receiveTimeout.toNat) := by
  subst ht
  rcases link with ⟨host, port, _ | address, terminator, _ | byte, connectTimeout, receiveTimeout⟩
  all_goals exact ⟨rfl, rfl, rfl, rfl, rfl, rfl, rfl⟩

theorem ofLink_values (link : LinkSettings) :
    ofLink (.table .header (Section.values link.entries)) =
      .ok { link with strip := link.strip.or ({} : LinkSettings).strip } := by
  generalize ht : Section.values link.entries = t
  obtain ⟨hhost, hport, hbind, hterminator, hstrip, hconnect, hreceive⟩ := get?_link link ht.symm
  simp only [ofLink, Source.ofValue, bind, Except.bind, pure, Except.pure,
    Source.take_some hhost text rfl, Source.take_some hport port (port_integer _),
    Source.take_map hbind text fun _ => rfl,
    Source.take_some hterminator byte (byte_integer _), Source.take_map hstrip byte byte_integer,
    Source.take_some hconnect milliseconds (milliseconds_integer _),
    Source.take_some hreceive milliseconds (milliseconds_integer _), Option.or_none]

theorem get?_proxy (proxy : ProxySettings) {t : Table} (ht : t = Section.values proxy.entries) :
    t.get? "host" = some (.string proxy.host) ∧
    t.get? "port" = some (.integer proxy.port.toNat) ∧
    t.get? "version" = some (.integer proxy.version.toNat) ∧
    t.get? "numeric_uid" = some (.boolean proxy.numericUid) ∧
    t.get? "user" = proxy.user.map .string ∧
    t.get? "auth_user" = proxy.authUser.map .string ∧
    t.get? "auth_password" = proxy.authPassword.map .string := by
  subst ht
  rcases proxy with ⟨host, port, version, numericUid, _ | user, _ | authUser, _ | authPassword⟩
  all_goals exact ⟨rfl, rfl, rfl, rfl, rfl, rfl, rfl⟩

theorem ofProxy_values (proxy : ProxySettings) :
    ofProxy (.table .header (Section.values proxy.entries)) = .ok proxy := by
  generalize ht : Section.values proxy.entries = t
  obtain ⟨hhost, hport, hversion, hnumeric, huser, hauthUser, hauthPassword⟩ :=
    get?_proxy proxy ht.symm
  simp only [ofProxy, Source.ofValue, bind, Except.bind, pure, Except.pure,
    Source.take_some hhost text rfl, Source.take_some hport port (port_integer _),
    Source.take_some hversion byte (byte_integer _), Source.take_some hnumeric flag rfl,
    Source.take_map huser text fun _ => rfl,
    Source.take_map hauthUser text fun _ => rfl,
    Source.take_map hauthPassword text fun _ => rfl, Option.or_none]

def restored (c : Config) : Config :=
  { c with link := { c.link with strip := c.link.strip.or ({} : LinkSettings).strip } }

theorem ofTable_sections (c : Config) :
    ofTable (c.sections.map Section.table) = .ok c.restored := by
  obtain ⟨link, _ | proxy⟩ := c
  · change (do
      let link ← ofLink (.table .header (Section.values link.entries))
      return ({ link } : Config)) = _
    rw [ofLink_values]
    rfl
  · change (do
      let link ← ofLink (.table .header (Section.values link.entries))
      let proxy ← some <$> ofProxy (.table .header (Section.values proxy.entries))
      return ({ link, proxy } : Config)) = _
    rw [ofLink_values, ofProxy_values]
    rfl

/-! ### Documents -/

def linkNames : List String :=
  ["host", "port", "bind_addr", "terminator", "strip", "connect_timeout_ms", "recv_timeout_ms"]

def proxyNames : List String :=
  ["host", "port", "version", "numeric_uid", "user", "auth_user", "auth_password"]

theorem link_names (link : LinkSettings) : (link.entries.map Prod.fst).Sublist linkNames := by
  rcases link with ⟨host, port, _ | address, terminator, _ | byte, connectTimeout, receiveTimeout⟩
  all_goals
    unfold LinkSettings.entries
    simp only [List.map_append, List.map_cons, List.map_nil, Option.map, Option.toList]
    decide

theorem proxy_names (proxy : ProxySettings) :
    (proxy.entries.map Prod.fst).Sublist proxyNames := by
  rcases proxy with ⟨host, port, version, numericUid, _ | user, _ | authUser, _ | authPassword⟩
  all_goals
    unfold ProxySettings.entries
    simp only [List.map_append, List.map_cons, List.map_nil, Option.map, Option.toList]
    decide

@[simp] theorem fits_byte (b : UInt8) : (Plain.integer b.toNat).Fits :=
  Nat.lt_trans b.toNat_lt (by decide)

@[simp] theorem fits_port (p : UInt16) : (Plain.integer p.toNat).Fits :=
  Nat.lt_trans p.toNat_lt (by decide)

theorem fits_milliseconds {ms : UInt64} (h : ms.toNat ≤ maxInteger) :
    (Plain.integer ms.toNat).Fits :=
  Nat.lt_of_le_of_lt h (by decide)

theorem link_fits {link : LinkSettings} (hconnect : link.connectTimeout.toNat ≤ maxInteger)
    (hreceive : link.receiveTimeout.toNat ≤ maxInteger) : ∀ e ∈ link.entries, e.2.Fits := by
  have hconnect := fits_milliseconds hconnect
  have hreceive := fits_milliseconds hreceive
  rcases link with ⟨host, port, _ | address, terminator, _ | byte, connectTimeout, receiveTimeout⟩
  all_goals simp [LinkSettings.entries, hconnect, hreceive]

theorem proxy_fits (proxy : ProxySettings) : ∀ e ∈ proxy.entries, e.2.Fits := by
  rcases proxy with ⟨host, port, version, numericUid, _ | user, _ | authUser, _ | authPassword⟩
  all_goals simp [ProxySettings.entries]

theorem wellFormed_of_names {s : Section} {names : List String} (hname : Toml.IsBare s.name)
    (hnames : (s.entries.map Prod.fst).Sublist names) (hbare : ∀ name ∈ names, Toml.IsBare name)
    (hdistinct : names.Nodup) (hfits : ∀ e ∈ s.entries, e.2.Fits) : s.WellFormed where
  name := hname
  names e he := hbare e.1 (hnames.subset (List.mem_map_of_mem he))
  fits := hfits
  distinct := hnames.nodup hdistinct

theorem le_of_write {c : Config} {text : String} (h : c.write = .ok text) :
    c.link.connectTimeout.toNat ≤ maxInteger ∧ c.link.receiveTimeout.toNat ≤ maxInteger ∧
      text = Section.writeAll c.sections := by
  unfold write at h
  split at h
  · cases h
  · next hin =>
    rw [not_or, Nat.not_lt, Nat.not_lt] at hin
    cases h
    exact ⟨hin.1, hin.2, rfl⟩

theorem sections_wellFormed {c : Config} (hconnect : c.link.connectTimeout.toNat ≤ maxInteger)
    (hreceive : c.link.receiveTimeout.toNat ≤ maxInteger) :
    (∀ s ∈ c.sections, s.WellFormed) ∧ (c.sections.map Section.name).Nodup := by
  have hlink : Section.WellFormed ⟨"link", c.link.entries⟩ :=
    wellFormed_of_names (show Toml.IsBare "link" by decide) (link_names c.link) (by decide)
      (by decide) (link_fits hconnect hreceive)
  obtain ⟨link, _ | proxy⟩ := c
  · refine ⟨fun s hs => ?_, show ["link"].Nodup by decide⟩
    rw [List.mem_singleton.1 hs]
    exact hlink
  · have hproxy : Section.WellFormed ⟨"socks", proxy.entries⟩ :=
      wellFormed_of_names (show Toml.IsBare "socks" by decide) (proxy_names proxy) (by decide)
        (by decide) (proxy_fits proxy)
    refine ⟨fun s hs => ?_, show ["link", "socks"].Nodup by decide⟩
    rcases List.mem_cons.1 hs with rfl | hs
    · exact hlink
    · rw [List.mem_singleton.1 hs]
      exact hproxy

theorem read_write {c : Config} {text : String} (h : c.write = .ok text) :
    read text = .ok c.restored := by
  obtain ⟨hconnect, hreceive, rfl⟩ := le_of_write h
  obtain ⟨hsections, hdistinct⟩ := sections_wellFormed hconnect hreceive
  unfold read
  rw [Section.document_writeAll hsections hdistinct]
  exact ofTable_sections c

/-! ### Files -/

theorem of_save_ok {c : Config} {place : Place} (h : (c.save place).1 = .ok ()) :
    ∃ text, c.write = .ok text ∧ (c.save place).2 = .file (utf8 text) := by
  unfold save at h ⊢
  cases hwrite : c.write with
  | error e =>
    rw [hwrite] at h
    cases h
  | ok text =>
    rw [hwrite] at h
    cases place with
    | file => exact ⟨text, rfl, rfl⟩
    | free => exact ⟨text, rfl, rfl⟩
    | missing => cases h
    | unusable => cases h

theorem loadOrCreate_save {c : Config} {place : Place} (h : (c.save place).1 = .ok ()) :
    loadOrCreate (c.save place).2 = (.ok c.restored, (c.save place).2) := by
  obtain ⟨text, hwrite, hplace⟩ := of_save_ok h
  have hcontent : ofContent (utf8 text) = .ok c.restored := by
    unfold ofContent
    rw [fromUTF8?_utf8]
    dsimp only
    rw [read_write hwrite]
    rfl
  rw [hplace]
  exact congrArg (·, Place.file (utf8 text)) hcontent

theorem restored_eq_iff (c : Config) : c.restored = c ↔ c.link.strip ≠ none := by
  refine ⟨fun heq hnone => ?_, fun hsome => ?_⟩
  · have hstrip : c.restored.link.strip = some 13 := by
      unfold restored
      rw [hnone]
      rfl
    rw [heq, hnone] at hstrip
    cases hstrip
  · obtain ⟨byte, hbyte⟩ := Option.ne_none_iff_exists'.1 hsome
    unfold restored
    rw [hbyte, Option.some_or, ← hbyte]

/-- A configuration that was saved is loaded as it was, unless its link strips nothing. The file
stays as it is. -/
theorem loaded_eq_iff {c : Config} {place : Place} (h : (c.save place).1 = .ok ()) :
    loadOrCreate (c.save place).2 = (.ok c.restored, (c.save place).2) ∧
      ((loadOrCreate (c.save place).2).1 = .ok c ↔ c.link.strip ≠ none) := by
  have hload := loadOrCreate_save h
  refine ⟨hload, ?_⟩
  rw [hload, Except.ok.injEq]
  exact restored_eq_iff c

theorem loaded_eq_of_names :
    let c : Config := {
      link := {
        host := "\"quoted\"\n'host'", port := 65535, strip := some 0,
        connectTimeout := 0x7FFFFFFFFFFFFFFF },
      proxy := some { host := "", version := 255, authPassword := some "\x00\\" } }
    (c.save .free).1 = .ok () ∧ (loadOrCreate (c.save .free).2).1 = .ok c :=
  ⟨rfl, (loaded_eq_iff rfl).2.2 nofun⟩

/-- A link that strips nothing is loaded as one that strips carriage returns. -/
theorem not_loaded_eq_of_strip :
    let c : Config := { link := { strip := none } }
    (c.save .free).1 = .ok () ∧ (loadOrCreate (c.save .free).2).1 = .ok {} ∧
      (loadOrCreate (c.save .free).2).1 ≠ .ok c := by
  intro c
  have hsave : (c.save .free).1 = .ok () := rfl
  have hload : (loadOrCreate (c.save .free).2).1 = .ok {} :=
    congrArg Prod.fst (loadOrCreate_save hsave)
  refine ⟨hsave, hload, ?_⟩
  rw [hload]
  exact fun heq => nomatch congrArg (fun c : Config => c.link.strip) (Except.ok.inj heq)

end LineTunnel.Config
