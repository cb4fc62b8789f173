import Storefront.Proofs.Shop.Fetched
import Storefront.Proofs.Storage.Backend
import Storefront.Proofs.Storage.Key
import Storefront.Proofs.Storage.Listing

/-!
# The order documents of a backend

In memory and in files alike, the documents right in the folder of the orders of a buyer are what a listing of
this folder shows. So on any backend the history of a buyer is decided document by document, and the number of
the next order by the names of the documents alone.
-/

namespace Storefront.Shop

open Files (Place Path Tree LeadsIn)
open Storage (Backend Memory Listing components isKey readKey_eq_ok_iff)

/-- A document right in the folder of the orders of a buyer. A file whose name starts with a point is none. -/
inductive OrderDocument (user : UserId) : Backend → String → ByteArray → Prop where
  | memory {m : Memory} {name : String} {data : ByteArray} (slash : '/' ∉ name.toList)
    (stored : m.get? (ordersFolder user ++ "/" ++ name) = some data) :
    OrderDocument user (.memory m) (ordersFolder user ++ "/" ++ name) data
  | file {root : Path} {t : Tree} {place : Place} {inside : List (String × Files.Entry)} {name : String}
    {data : ByteArray} (found : t.find (root.join ["orders", user.text]) = .ok (place, .folder inside))
    (stands : inside.lookup name = some (.file data)) (visible : name.toList.head? ≠ some '.') :
    OrderDocument user (.files root t) (ordersFolder user ++ "/" ++ name) data

variable {mayFail : Storage.Call → Prop} {user : UserId} {keys : List String} {data? : String → Option ByteArray}
  {key : String} {data : ByteArray} {root : Path} {t : Tree} {place : Place} {inside : List (String × Files.Entry)}

/-! ## Documents under keys -/

/-- The documents under some keys. -/
def documents (data? : String → Option ByteArray) (keys : List String) : List (String × ByteArray) :=
  keys.filterMap fun key => (data? key).map fun data => (key, data)

theorem mem_documents_iff : (key, data) ∈ documents data? keys ↔ key ∈ keys ∧ data? key = some data := by
  rw [documents, List.mem_filterMap]
  constructor
  · rintro ⟨other, hkey, hdata⟩
    obtain ⟨_, hother, heq⟩ := Option.map_eq_some_iff.1 hdata
    cases heq
    exact ⟨hkey, hother⟩
  · rintro ⟨hkey, hdata⟩
    exact ⟨key, hkey, by rw [hdata, Option.map_some]⟩

theorem map_fst_documents (h : ∀ key ∈ keys, (data? key).isSome = true) :
    (documents data? keys).map Prod.fst = keys := by
  rw [documents, List.map_filterMap]
  refine (List.filterMap_congr fun key hkey => ?_).trans List.filterMap_some
  obtain ⟨data, hdata⟩ := Option.isSome_iff_exists.1 (h key hkey)
  rw [hdata]
  rfl

/-! ## Memory -/

theorem exists_holds_memory (mayFail : Storage.Call → Prop) (user : UserId) (m : Memory) :
    ∃ docs, Holds (Backend.Serves mayFail) user (.memory m) docs ∧
      ∀ key data, (key, data) ∈ docs ↔ OrderDocument user (.memory m) key data := by
  have hsome : ∀ key ∈ m.listed (ordersListing user ""), (m.get? key).isSome = true :=
    fun key hkey => (Memory.mem_listed_iff.1 hkey).1
  have hkeys := map_fst_documents hsome
  refine ⟨documents m.get? (m.listed (ordersListing user "")), ?_, fun key data => ?_⟩
  · refine
      { get_same := Backend.Serves.get_same
        list_same := Backend.Serves.list_same
        distinct := ?_
        shown := fun document hmem => (Memory.mem_listed_iff.1 (mem_documents_iff.1 hmem).1).2
        listed := fun hparse served => ?_
        fetched := fun hmem served => ?_ }
    · rw [hkeys]
      exact m.nodup_listed _
    · obtain ⟨told, htold, hperm⟩ := served.keys
      rw [Backend.answer_list_memory hparse] at htold
      obtain rfl := Except.ok.inj htold
      refine ⟨hperm.nodup_iff.1 (m.nodup_listed _), fun key => ?_⟩
      rw [← hperm.mem_iff, hkeys, Memory.mem_listed_iff, Memory.mem_listed_iff, and_assoc]
      refine and_congr_right fun _ => (and_iff_right_of_imp fun hshows => ?_).symm
      obtain ⟨name, rfl, hslash, -⟩ := shows_ordersListing_iff.1 hshows
      exact shows_ordersListing_iff.2 ⟨name, rfl, hslash, List.nil_prefix⟩
    · have hfound := served.found
      rw [← (mem_documents_iff.1 hmem).2]
      exact Backend.found_memory hfound
  · rw [mem_documents_iff, Memory.mem_listed_iff, shows_ordersListing_iff]
    constructor
    · rintro ⟨⟨-, name, rfl, hslash, -⟩, hdata⟩
      exact .memory hslash hdata
    · rintro ⟨hslash, hstored⟩
      exact ⟨⟨by rw [hstored]; rfl, _, rfl, hslash, List.nil_prefix⟩, hstored⟩

/-! ## Files -/

/-- What a fetch tells of a file in the folder of the orders. -/
theorem found_of_fetched {name : String} {found : Option ByteArray}
    (hfind : t.find (root.join ["orders", user.text]) = .ok (place, .folder inside))
    (stands : inside.lookup name = some (.file data)) (hslash : '/' ∉ name.toList)
    (hfound : ((Backend.answer (.get (ordersFolder user ++ "/" ++ name))).run (.files root t)).1 = .ok found) :
    found = some data := by
  cases hkey : Storage.readKey (ordersFolder user ++ "/" ++ name) with
  | error e =>
    rw [Backend.answer_get_invalid hkey] at hfound
    cases hfound
  | ok names =>
    obtain ⟨hvalid, hnames⟩ := readKey_eq_ok_iff.1 hkey
    rw [components_below_ordersFolder user hslash] at hnames
    have hname : Storage.IsName name := by
      refine Storage.isName_of_readKey hkey ?_
      rw [← hnames]
      exact List.mem_append_right ["orders", user.text] List.mem_cons_self
    rw [Backend.answer_get_files hkey, ← hnames] at hfound
    have hjoin : root.join ["orders", user.text, name] = root.join ["orders", user.text] ++ [name] := by
      rw [Path.join_eq, Path.join_eq, List.append_assoc]
      rfl
    have hne : root.join ["orders", user.text] ≠ [] := by
      rw [Path.join_eq]
      exact List.append_ne_nil_of_right_ne_nil _ (List.cons_ne_nil _ _)
    rw [hjoin] at hfound
    rcases Files.find_concat hfind hne ⟨hname.isHere, hname.ne_up⟩ stands with hthere | hlong
    · rw [hthere] at hfound
      exact (Except.ok.inj hfound).symm
    · rw [hlong] at hfound
      cases hfound

/-- What is in the file whose name is the last one of a key. -/
def fileUnder? (inside : List (String × Files.Entry)) (key : String) : Option ByteArray :=
  match inside.lookup (Storage.nameOf key) with
  | some (.file data) => some data
  | _ => none

theorem fileUnder?_eq_some_iff {name : String} (hslash : '/' ∉ name.toList) :
    fileUnder? inside (ordersFolder user ++ "/" ++ name) = some data ↔
      inside.lookup name = some (.file data) := by
  have hname : Storage.nameOf (ordersFolder user ++ "/" ++ name) = name := by
    rw [Storage.nameOf, Text.splitLast_append_slash _ hslash, String.ofList_toList]
  rw [fileUnder?, hname]
  constructor
  · intro h
    split at h
    · next hlookup =>
      cases h
      exact hlookup
    · cases h
  · intro h
    rw [h]

/-- The keys of the files in a folder of the orders, as a listing shows them. -/
def fileKeys (user : UserId) (inside : List (String × Files.Entry)) (start : String) : List String :=
  Storage.Folder.listed (ordersListing user start) (Files.Entry.folder inside).fileNames

theorem nodup_fileKeys (hascending : Table.Ascending inside) (start : String) :
    (fileKeys user inside start).Nodup := by
  refine (Storage.Folder.ascending_listed (Files.Entry.nodup_fileNames hascending)).imp ?_
  rintro a b hlt rfl
  exact String.lt_irrefl _ hlt

/-- The folder of the orders of a buyer, in which no name has a slash. -/
structure OrdersFolder (user : UserId) (root : Path) (t : Tree) (place : Place)
    (inside : List (String × Files.Entry)) : Prop where
  found : t.find (root.join ["orders", user.text]) = .ok (place, .folder inside)
  ascending : Table.Ascending inside
  slash : ∀ name e, inside.lookup name = some e → '/' ∉ name.toList

namespace OrdersFolder

theorem of_sound (hsound : Backend.Sound (.files root t))
    (found : t.find (root.join ["orders", user.text]) = .ok (place, .folder inside)) :
    OrdersFolder user root t place inside := by
  obtain ⟨-, -, -, hget⟩ := Files.leads_of_find found
  refine ⟨found, hsound.1 place inside hget, fun name e hlookup => ?_⟩
  refine hsound.2 place name ?_
  rw [Files.Entry.get?_concat hget, hlookup]
  rintro ⟨⟩

theorem mem_fileKeys_iff (h : OrdersFolder user root t place inside) {start : String} :
    key ∈ fileKeys user inside start ↔
      ∃ name data, key = ordersFolder user ++ "/" ++ name ∧ inside.lookup name = some (.file data) ∧
        '/' ∉ name.toList ∧ name.toList.head? ≠ some '.' ∧ start.toList <+: name.toList := by
  rw [fileKeys, Storage.Folder.mem_listed]
  constructor
  · rintro ⟨name, hname, hvisible, hmatches, rfl⟩
    obtain ⟨data, hlookup⟩ := (Files.Entry.mem_fileNames h.ascending).1 hname
    exact ⟨name, data, key_ordersListing user start name, hlookup, h.slash _ _ hlookup, hvisible,
      List.isPrefixOf_iff_prefix.1 hmatches⟩
  · rintro ⟨name, data, rfl, hlookup, -, hvisible, hstart⟩
    exact ⟨name, (Files.Entry.mem_fileNames h.ascending).2 ⟨data, hlookup⟩, hvisible,
      List.isPrefixOf_iff_prefix.2 hstart, key_ordersListing user start name⟩

/-- A listing that asks for more shows fewer of the files. -/
theorem mem_fileKeys_iff_shows (h : OrdersFolder user root t place inside) {start : String} :
    key ∈ fileKeys user inside start ↔
      key ∈ fileKeys user inside "" ∧ Memory.shows (ordersListing user start) key = true := by
  rw [h.mem_fileKeys_iff, h.mem_fileKeys_iff, shows_ordersListing_iff]
  constructor
  · rintro ⟨name, data, hname, hlookup, hslash, hvisible, hstart⟩
    exact ⟨⟨name, data, hname, hlookup, hslash, hvisible, List.nil_prefix⟩, name, hname, hslash, hstart⟩
  · rintro ⟨⟨name, data, hname, hlookup, hslash, hvisible, -⟩, other, hother, -, hstart⟩
    obtain rfl := (ordersFolder_append_inj (hname.symm.trans hother)).2
    exact ⟨name, data, hname, hlookup, hslash, hvisible, hstart⟩

/-- The documents are those of the files that a listing shows. -/
theorem map_fst_documents (h : OrdersFolder user root t place inside) :
    (documents (fileUnder? inside) (fileKeys user inside "")).map Prod.fst = fileKeys user inside "" := by
  refine Shop.map_fst_documents fun key hkey => ?_
  obtain ⟨name, data, rfl, hlookup, hslash, -⟩ := h.mem_fileKeys_iff.1 hkey
  rw [(fileUnder?_eq_some_iff hslash).2 hlookup]
  rfl

theorem mem_documents_iff (h : OrdersFolder user root t place inside) :
    (key, data) ∈ documents (fileUnder? inside) (fileKeys user inside "") ↔
      OrderDocument user (.files root t) key data := by
  rw [Shop.mem_documents_iff, h.mem_fileKeys_iff]
  constructor
  · rintro ⟨⟨name, _, rfl, -, hslash, hvisible, -⟩, hdata⟩
    exact .file h.found ((fileUnder?_eq_some_iff hslash).1 hdata) hvisible
  · intro hdocument
    cases hdocument with
    | @file _ _ _ _ name data found stands visible =>
      cases h.found.symm.trans found
      have hslash := h.slash _ _ stands
      exact ⟨⟨name, data, rfl, stands, hslash, visible, List.nil_prefix⟩,
        (fileUnder?_eq_some_iff hslash).2 stands⟩

theorem holds (h : OrdersFolder user root t place inside) (mayFail : Storage.Call → Prop) :
    Holds (Backend.Serves mayFail) user (.files root t)
      (documents (fileUnder? inside) (fileKeys user inside "")) where
  get_same := Backend.Serves.get_same
  list_same := Backend.Serves.list_same
  distinct := by
    rw [h.map_fst_documents]
    exact nodup_fileKeys h.ascending ""
  shown document hdocument := by
    obtain ⟨name, data, hname, -, hslash, -⟩ :=
      h.mem_fileKeys_iff.1 (Shop.mem_documents_iff.1 hdocument).1
    exact shows_ordersListing_iff.2 ⟨name, hname, hslash, List.nil_prefix⟩
  listed hparse served := by
    obtain ⟨told, htold, hperm⟩ := served.keys
    rw [Backend.answer_list_files hparse, path_ordersListing, h.found] at htold
    obtain rfl := Except.ok.inj htold
    refine ⟨hperm.nodup_iff.1 (nodup_fileKeys h.ascending _), fun key => ?_⟩
    rw [h.map_fst_documents, ← h.mem_fileKeys_iff_shows]
    exact hperm.mem_iff.symm
  fetched hdocument served := by
    obtain ⟨hkey, hdata⟩ := Shop.mem_documents_iff.1 hdocument
    obtain ⟨name, _, rfl, -, hslash, -⟩ := h.mem_fileKeys_iff.1 hkey
    exact found_of_fetched h.found ((fileUnder?_eq_some_iff hslash).1 hdata) hslash served.found

end OrdersFolder

/-- Where there is no folder for the orders there are no documents. -/
theorem holds_no_files (mayFail : Storage.Call → Prop)
    (hnone : ∀ place inside, t.find (root.join ["orders", user.text]) ≠ .ok (place, .folder inside)) :
    Holds (Backend.Serves mayFail) user (.files root t) [] := by
  refine
    { get_same := Backend.Serves.get_same
      list_same := Backend.Serves.list_same
      distinct := List.nodup_nil
      shown := fun _ hmem => absurd hmem List.not_mem_nil
      listed := fun hparse served => ?_
      fetched := fun hmem _ => absurd hmem List.not_mem_nil }
  obtain ⟨told, htold, hperm⟩ := served.keys
  rw [Backend.answer_list_files hparse, path_ordersListing] at htold
  have hnil : told = [] := by
    cases hfind : t.find (root.join ["orders", user.text]) with
    | ok found =>
      obtain ⟨place, entry⟩ := found
      rw [hfind] at htold
      cases entry with
      | file data => cases htold
      | folder inside => exact absurd hfind (hnone place inside)
    | error e =>
      rw [hfind] at htold
      cases e <;> cases htold
      rfl
  subst hnil
  obtain rfl := List.nil_perm.1 hperm
  refine ⟨List.nodup_nil, fun key => ⟨fun hmem => absurd hmem List.not_mem_nil, fun hmem => ?_⟩⟩
  exact absurd hmem.1 List.not_mem_nil

theorem exists_holds_files (mayFail : Storage.Call → Prop) (user : UserId)
    (hsound : Backend.Sound (.files root t)) :
    ∃ docs, Holds (Backend.Serves mayFail) user (.files root t) docs ∧
      ∀ key data, (key, data) ∈ docs ↔ OrderDocument user (.files root t) key data := by
  by_cases hfolder : ∃ place inside, t.find (root.join ["orders", user.text]) = .ok (place, .folder inside)
  · obtain ⟨place, inside, hfind⟩ := hfolder
    have hfolder := OrdersFolder.of_sound hsound hfind
    exact ⟨_, hfolder.holds mayFail, fun key data => hfolder.mem_documents_iff⟩
  · refine ⟨[], holds_no_files mayFail fun place inside hfind => hfolder ⟨place, inside, hfind⟩,
      fun key data => ⟨fun hmem => absurd hmem List.not_mem_nil, fun hdocument => ?_⟩⟩
    cases hdocument with
    | file found => exact absurd ⟨_, _, found⟩ hfolder

/-- Any backend holds the order documents of a buyer. -/
theorem exists_holds (mayFail : Storage.Call → Prop) (user : UserId) {b : Backend} (hsound : b.Sound) :
    ∃ docs, Holds (Backend.Serves mayFail) user b docs ∧
      ∀ key data, (key, data) ∈ docs ↔ OrderDocument user b key data := by
  cases b with
  | memory m => exact exists_holds_memory mayFail user m
  | files root t => exact exists_holds_files mayFail user hsound

/-! ## Histories -/

/-- How a buyer is told of the orders whose documents are on a backend. -/
structure ToldByDocument (user : UserId) (mayFail : Storage.Call → Prop) (b : Backend)
    (docs : List (String × ByteArray)) : Prop where
  distinct : (docs.map Prod.fst).Nodup
  /-- They are the documents right in the folder of the buyer. -/
  exact : ∀ key data, (key, data) ∈ docs ↔ OrderDocument user b key data
  runs : ∀ pay channel, ∃ trace r s',
    Program.Runs (ServedBy (Backend.Serves mayFail) pay) (orders user).run (b, channel) trace r s'
  history : ∀ pay channel trace r s',
    Program.Runs (ServedBy (Backend.Serves mayFail) pay) (orders user).run (b, channel) trace r s' →
      s' = (b, channel) ∧ HistoryOf user docs trace r
  /-- What could not be fetched was refused by the backend, or the call had failed before. -/
  unfetched : ∀ pay channel trace r s',
    Program.Runs (ServedBy (Backend.Serves mayFail) pay) (orders user).run (b, channel) trace r s' →
      ∀ key, unfetched? trace key = true →
        mayFail (.get key) ∨ ∃ e, ((Backend.answer (.get key)).run b).1 = .error e

/-- What may come of finding the number for the next order on a backend whose documents can be listed. -/
def NextNumber (mayFail : Storage.Call → Prop) (user : UserId) (b : Backend) (r : Except ShopError OrderId) :
    Prop :=
  ∃ pay channel trace s', failures trace = [] ∧
    Program.Runs (ServedBy (Backend.Serves mayFail) pay) (nextOrderId user).run (b, channel) trace r s'

/-- The number that the next order of a buyer may have that is placed on a backend. -/
def NextPlaced (mayFail : Storage.Call → Prop) (user : UserId) (b : Backend) (id : OrderId) : Prop :=
  ∃ shop moment pay channel trace order message s',
    Program.Runs (ServedBy (Backend.Serves mayFail) pay) (placeOrder shop moment user).run (b, channel) trace
      (.ok (.placed order message)) s' ∧ order.id = id

theorem toldByDocument {b : Backend} {docs : List (String × ByteArray)}
    (holds : Holds (Backend.Serves mayFail) user b docs)
    (exact : ∀ key data, (key, data) ∈ docs ↔ OrderDocument user b key data) :
    ToldByDocument user mayFail b docs where
  distinct := holds.distinct
  exact := exact
  runs pay channel :=
    Program.exists_runs (ServedBy.total (Backend.serves_total mayFail) pay) (orders user).run (b, channel)
  history pay channel trace r s' run := holds.historyOf run
  unfetched pay channel trace r s' run key hunfetched := by
    obtain ⟨-, hserved⟩ := holds.passes run.passes ((LookOnly.orders user).looks_of_mem run)
    obtain ⟨e, hmem⟩ := unfetched?_eq_true_iff.1 hunfetched
    rcases Backend.Serves.get (hserved _ _ hmem) with hanswer | ⟨hmay, -⟩
    · exact .inr ⟨e, by rw [hanswer]⟩
    · exact .inl hmay

/-- The number of the next order, told by the keys of the documents alone. -/
theorem exists_numberAfter {b : Backend} (user : UserId) (hsound : b.Sound) (mayFail : Storage.Call → Prop) :
    ∃ keys : List String, (∀ key, key ∈ keys ↔ ∃ data, OrderDocument user b key data) ∧
      (∀ r, NextNumber mayFail user b r → r = numberAfter keys) ∧
      ∀ id, NextPlaced mayFail user b id → numberAfter keys = .ok id := by
  obtain ⟨docs, holds, hexact⟩ := exists_holds mayFail user hsound
  refine ⟨docs.map Prod.fst, fun key => ?_, ?_, ?_⟩
  · simp only [← hexact, List.mem_map, Prod.exists, exists_and_right, exists_eq_right]
  · rintro r ⟨pay, channel, trace, s', hfail, run⟩
    rcases holds.numberAfter_eq run with ⟨hfailed, -⟩ | hr
    · exact absurd hfail hfailed
    · exact hr
  · rintro id ⟨shop, moment, pay, channel, trace, order, message, s', run, rfl⟩
    exact holds.numberAfter_eq_of_placed run

/-- The history of a buyer is decided document by document: whatever the outside answers, each answer decides
about its own document alone; on a backend the documents are those right in the folder of the buyer; and what is
in them does not change the number of the next order. -/
theorem orders_document_by_document (user : UserId) :
    (∀ {σ : Type} (serve : Outside interface σ) (s s' : σ) (trace : List (Exchange interface))
      (r : Except ShopError (List Order)),
        Program.Runs serve (orders user).run s trace r s' → HistoryFrom user trace r) ∧
    (∀ (mayFail : Storage.Call → Prop) (b : Backend), b.Sound →
      ∃ docs, ToldByDocument user mayFail b docs) ∧
    ∀ (mayFail mayFail' : Storage.Call → Prop) (b b' : Backend), b.Sound → b'.Sound →
      (∀ key, (∃ data, OrderDocument user b key data) ↔ ∃ data, OrderDocument user b' key data) →
        (∀ r r', NextNumber mayFail user b r → NextNumber mayFail' user b' r' → r = r') ∧
        ∀ id id', NextPlaced mayFail user b id → NextPlaced mayFail' user b' id' → id = id' := by
  refine ⟨fun serve s s' trace r run => runs_orders_fetched run, fun mayFail b hsound => ?_, ?_⟩
  · obtain ⟨docs, holds, hexact⟩ := exists_holds mayFail user hsound
    exact ⟨docs, toldByDocument holds hexact⟩
  · intro mayFail mayFail' b b' hsound hsound' hsame
    obtain ⟨keys, hkeys, hnumber, hplaced⟩ := exists_numberAfter user hsound mayFail
    obtain ⟨keys', hkeys', hnumber', hplaced'⟩ := exists_numberAfter user hsound' mayFail'
    have hafter : numberAfter keys = numberAfter keys' :=
      numberAfter_congr fun key _ => (hkeys key).trans ((hsame key).trans (hkeys' key).symm)
    constructor
    · intro r r' hr hr'
      rw [hnumber r hr, hnumber' r' hr', hafter]
    · intro id id' hid hid'
      have hok := hplaced id hid
      rw [hafter, hplaced' id' hid'] at hok
      exact (Except.ok.inj hok).symm

/-! ## Two backends with the same document -/

namespace Sample

/-- The key of the first order of the buyer. -/
def firstKey : String := orderKey buyer ⟨1⟩

/-- What should be an order and is not. -/
def corrupt : ByteArray := "?".toUTF8

/-- It is in a file. -/
def ordersTree : Tree :=
  ⟨.folder [("orders", .folder [("bob", .folder [(orderNumbering.name 1, .file corrupt)])])], []⟩

def inFiles : Backend := .files [] ordersTree

/-- Or it is in memory, and empty. -/
def inMemory : Backend := .memory (Memory.empty.put firstKey ByteArray.empty)

theorem sound_inFiles : inFiles.Sound := by
  refine ⟨?_, ?_⟩
  · exact (((Files.Entry.tidy_file corrupt).singleton _).singleton _).singleton _
  · refine ((Storage.Named.singleton ?_ ?_).singleton ?_).singleton ?_
    · exact Storage.named_file corrupt
    · exact slash_not_mem_orderName 1
    · decide
    · decide

theorem sound_inMemory : inMemory.Sound := trivial

theorem find_ordersTree :
    ordersTree.find (Path.join [] ["orders", "bob"]) =
      .ok (["orders", "bob"], .folder [(orderNumbering.name 1, .file corrupt)]) := rfl

theorem orderDocument_inFiles_iff {key : String} :
    (∃ data, OrderDocument buyer inFiles key data) ↔ key = firstKey := by
  constructor
  · rintro ⟨data, hdocument⟩
    cases hdocument with
    | @file _ _ _ inside name data found stands visible =>
      cases find_ordersTree.symm.trans found
      cases List.mem_singleton.1 (Table.mem_of_lookup stands)
      rfl
  · rintro rfl
    exact ⟨corrupt, .file find_ordersTree List.lookup_cons_self (by decide)⟩

theorem orderDocument_inMemory_iff {key : String} :
    (∃ data, OrderDocument buyer inMemory key data) ↔ key = firstKey := by
  constructor
  · rintro ⟨data, hdocument⟩
    cases hdocument with
    | @memory _ name data slash stored =>
      by_contra hkey
      rw [Memory.get?_put_of_ne hkey] at stored
      cases stored
  · rintro rfl
    exact ⟨ByteArray.empty, .memory (slash_not_mem_orderName 1) (Memory.get?_put_self _ _ _)⟩

/-- The number of the next order is found in memory. -/
theorem nextNumber_inMemory : NextNumber (fun _ => False) buyer inMemory (.ok ⟨2⟩) := by
  have hlisted : (Memory.empty.put firstKey ByteArray.empty).listed (numberedListing buyer) = [firstKey] := by
    decide
  have hanswer : (Backend.answer (.list (numberedStart buyer))).run inMemory =
      (.ok [firstKey], inMemory) := by
    rw [inMemory, Backend.answer_list_memory (parse_numberedStart buyer), hlisted]
  have hserved : Backend.Serves (fun _ => False) (.list (numberedStart buyer)) inMemory (.ok [firstKey])
      inMemory := .answered hanswer (.refl _ _)
  have hnumber : numberAfter [firstKey] = .ok ⟨2⟩ := by decide
  have hlist : Program.Runs (ServedBy (Backend.Serves fun _ => False) fun _ => .ok "")
      (onStorage (.list (numberedStart buyer))).run (inMemory, scene.channel)
      [⟨.storage (.list (numberedStart buyer)), .ok [firstKey]⟩] (.ok [firstKey]) (inMemory, scene.channel) :=
    .call (.storage hserved _) (.done _ _)
  refine ⟨_, scene.channel, _, (inMemory, scene.channel), ?_,
    Program.runs_except_bind_iff.2 (.inr ⟨_, [], _, _, rfl, hlist, ?_⟩)⟩
  · rfl
  · exact .done _ _

end Sample

/-- A document that cannot be read is counted as one that can. -/
theorem orders_document_by_document_sample :
    Sample.inFiles.Sound ∧ Sample.inMemory.Sound ∧
      (∀ key, (∃ data, OrderDocument Sample.buyer Sample.inFiles key data) ↔
        ∃ data, OrderDocument Sample.buyer Sample.inMemory key data) ∧
      NextNumber (fun _ => False) Sample.buyer Sample.inMemory (.ok ⟨2⟩) ∧
      (∃ docs, ToldByDocument Sample.buyer (fun _ => False) Sample.inFiles docs) ∧
      ∀ r, NextNumber (fun _ => False) Sample.buyer Sample.inFiles r → r = .ok ⟨2⟩ := by
  obtain ⟨-, htold, hnumber⟩ := orders_document_by_document Sample.buyer
  have hsame : ∀ key, (∃ data, OrderDocument Sample.buyer Sample.inFiles key data) ↔
      ∃ data, OrderDocument Sample.buyer Sample.inMemory key data := fun key =>
    Sample.orderDocument_inFiles_iff.trans Sample.orderDocument_inMemory_iff.symm
  refine ⟨Sample.sound_inFiles, Sample.sound_inMemory, hsame, Sample.nextNumber_inMemory, ?_, fun r hr => ?_⟩
  · exact htold _ _ Sample.sound_inFiles
  · exact (hnumber _ _ _ _ Sample.sound_inFiles Sample.sound_inMemory hsame).1 _ _ hr Sample.nextNumber_inMemory

end Storefront.Shop
