import Storefront.Proofs.Shop.Mirror
import Storefront.Proofs.Shop.Sessions

/-!
# Documents in memory or in a folder

A shop behaves the same whether it keeps its documents in memory or in a folder that was empty and that nobody
else touches. The memory is the simpler one of the two: after every visit the files in the folder are the
documents in memory. This takes ids that leave room for the names of temporary files, and a root whose path
leaves room for what lies below it.
-/

namespace Storefront.Shop

open Files (Path Place Tree EmptyRoot exec)
open Storage (Memory Contract SameTold IsSuffix components)

/-- Documents in memory. -/
def memoryStorage : Outside Storage.interface Memory :=
  fun request m a m' => Memory.answer request m = (a, m')

/-- Documents in files below a root. A temporary file may be marked by any suffix, and the system tells what
lies in a folder in any order. -/
def folderStorage (text : String) : Outside Storage.interface Tree :=
  fun request t a t' => ∃ suffix told, IsSuffix suffix ∧
    exec (Storage.Folder.answer (Path.ofText text) suffix request) t = (told, t') ∧ SameTold request told a

/-- What came of a visit with the documents in memory and with the documents below a place: the same, without
a failure of the storage, and the files are the documents. -/
structure Agrees (place : Place) (inMemory : Except ShopError Response × Memory × Channel OrderPlaced)
    (inFolder : Except ShopError Response × Tree × Channel OrderPlaced) : Prop where
  result : inFolder.1 = inMemory.1
  unfailed : ∀ e, inMemory.1 ≠ .error (.storage e)
  files : ∀ names data, inFolder.2.1.root.get? (place ++ names) = some (.file data) ↔
    ∃ key, components key = names ∧ inMemory.2.1.get? key = some data
  channel : inFolder.2.2 = inMemory.2.2

/-- A shop can serve some visits in memory and in a folder, and whatever comes of them in one and in the other
agrees visit by visit. -/
structure BackendsAgree (shop : Shop) (visits : List Visit) (channel : Channel OrderPlaced) (t : Tree)
    (text : String) (place : Place) : Prop where
  inMemory : ∃ outcomes, Session memoryStorage shop visits (.empty, channel) outcomes
  inFolder : ∃ outcomes, Session (folderStorage text) shop visits (t, channel) outcomes
  agree : ∀ outcomes outcomes', Session memoryStorage shop visits (.empty, channel) outcomes →
    Session (folderStorage text) shop visits (t, channel) outcomes' →
      List.Forall₂ (Agrees place) outcomes outcomes'

variable {α : Type} {t t' : Tree} {text : String} {place : Place} {e : Files.Entry} {m : Memory} {user : UserId}
  {shop : Shop} {channel : Channel OrderPlaced} {trace trace' : List (Exchange interface)}

/-! ## One call -/

theorem memoryStorage_total (request : Storage.Call) (m : Memory) :
    ∃ a m', memoryStorage request m a m' := ⟨_, _, rfl⟩

theorem folderStorage_total (text : String) (request : Storage.Call) (t : Tree) :
    ∃ a t', folderStorage text request t a t' := ⟨_, _, _, _, Storage.isSuffix_zeros, rfl, .refl _ _⟩

/-- The keys that are told are those of the buyer. -/
theorem Own.expected_of_sameTold {request : Storage.Call} {expected : request.Answer → Prop}
    (own : Own (Keeps user) user (.storage request) expected) (h : Mirrors e m) {a : request.Answer}
    (hsame : SameTold request (Memory.answer request m).1 a) : expected a := by
  cases own with
  | get | put | delete => trivial
  | @list key start parsed =>
    rintro keys rfl key hkey
    have hlisted : key ∈ m.listed (ordersListing user start) := by
      rw [Memory.answer_list parsed] at hsame
      cases hsame with
      | refl => exact hkey
      | keys perm => exact perm.mem_iff.2 hkey
    obtain ⟨hsome, hshows⟩ := Memory.mem_listed_iff.1 hlisted
    obtain ⟨other, hkeeps⟩ := h.kept key hsome
    exact hkeeps.of_shows hshows

/-- What a folder that mirrors a memory answers, the memory may answer as well if it may show keys in any
order. -/
theorem Own.contract_of_folder {request : Storage.Call} {expected : request.Answer → Prop}
    (own : Own (Keeps user) user (.storage request) expected) (h : Mirrors e m)
    (hroot : EmptyRoot t text place) (hshort : user.text.utf8ByteSize ≤ idLimit) {a : request.Answer}
    (served : folderStorage text request (t.plant place e) a t') :
    ∃ e' m', t' = t.plant place e' ∧ Mirrors e' m' ∧ Contract (fun _ => False) request m a m' ∧
      expected a := by
  obtain ⟨suffix, told, hsuffix, hexec, hsame⟩ := served
  obtain ⟨e', hexec', hmirrors⟩ := own.answer_folder h hroot hshort hsuffix
  obtain ⟨rfl, rfl⟩ := Prod.mk.inj (hexec.symm.trans hexec')
  refine ⟨e', _, rfl, hmirrors, ?_, own.expected_of_sameTold h hsame⟩
  generalize htold : (Memory.answer request m).1 = told at hsame
  cases hsame with
  | refl =>
    rw [← htold]
    exact .obeyed request m
  | keys perm =>
    rw [Memory.answer_list_same]
    exact .shuffled htold perm.symm

/-! ## One visit -/

/-- A program that is about a buyer runs on a folder as it may run on the memory that the folder mirrors. -/
theorem runs_mirrored {pay : PaymentRequest → Except ProviderError String} {kind : α → Prop}
    {p : Program interface α} {a : α} {s' : Tree × Channel OrderPlaced}
    (asks : Program.Asks (Own (Keeps user) user) kind p) (h : Mirrors e m)
    (hroot : EmptyRoot t text place) (hshort : user.text.utf8ByteSize ≤ idLimit)
    (run : Program.Runs (ServedBy (folderStorage text) pay) p (t.plant place e, channel) trace a s') :
    ∃ e' m', s'.1 = t.plant place e' ∧ Mirrors e' m' ∧
      Program.Runs (ServedBy (Contract fun _ => False) pay) p (m, channel) trace a (m', s'.2) := by
  induction asks generalizing e m channel trace with
  | done =>
    obtain ⟨rfl, rfl, rfl⟩ := Program.runs_done_iff.1 run
    exact ⟨e, m, rfl, h, .done _ _⟩
  | @call request next expected allows _ ih =>
    obtain ⟨answer, rest, s₁, rfl, hserved, hrest⟩ := Program.runs_call_iff.1 run
    cases hserved with
    | @storage _ answer _ _ served channel =>
      obtain ⟨e₁, m₁, rfl, hmirrors, hcontract, hexpected⟩ :=
        allows.contract_of_folder h hroot hshort served
      obtain ⟨e', m', hs', hmirrors', hruns⟩ := ih answer hexpected hmirrors hrest
      exact ⟨e', m', hs', hmirrors', .call (.storage hcontract channel) hruns⟩
    | pay request s =>
      have hexpected : expected (pay request) := by
        cases allows
        trivial
      obtain ⟨e', m', hs', hmirrors', hruns⟩ := ih _ hexpected h hrest
      exact ⟨e', m', hs', hmirrors', .call (.pay request _) hruns⟩
    | announce event t channel =>
      have hexpected : expected () := by
        cases allows
        trivial
      obtain ⟨e', m', hs', hmirrors', hruns⟩ := ih _ hexpected h hrest
      exact ⟨e', m', hs', hmirrors', .call (.announce event m channel) hruns⟩

/-- The books of every buyer are in order. -/
def AllBooks (m : Memory) : Prop := ∀ user, ∃ cart orders, Books m user cart orders

theorem allBooks_empty : AllBooks .empty := fun user => ⟨_, _, .start user⟩

variable {visit : Visit} {s s' : Memory × Channel OrderPlaced} {r r' : Except ShopError Response}

theorem AllBooks.next (h : AllBooks s.1)
    (run : visit.Runs (Contract fun _ => False) shop s trace r s') : AllBooks s'.1 := by
  intro user
  obtain ⟨cart, orders, hbooks⟩ := h user
  have heffect := runs_perform (runs_of_servedBy run)
  by_cases huser : visit.user = user
  · subst huser
    obtain ⟨cart', orders', hbooks', -⟩ := heffect.turn hbooks
    exact ⟨cart', orders', hbooks'⟩
  · exact ⟨cart, orders, hbooks.congr (heffect.sameFor huser)⟩

/-- A visit comes to the same in memory and in a folder that mirrors it, and the folder mirrors the memory
afterwards. -/
theorem Visit.agrees {s₁ : Tree × Channel OrderPlaced} (h : Mirrors e m) (books : AllBooks m)
    (hroot : EmptyRoot t text place) (hshort : visit.user.text.utf8ByteSize ≤ idLimit)
    (run : visit.Runs memoryStorage shop (m, channel) trace r s')
    (run' : visit.Runs (folderStorage text) shop (t.plant place e, channel) trace' r' s₁) :
    Agrees place (r, s') (r', s₁) ∧ AllBooks s'.1 ∧
      ∃ e', s₁ = (t.plant place e', s'.2) ∧ Mirrors e' s'.1 := by
  have hrun : visit.Runs (Contract fun _ => False) shop (m, channel) trace r s' := by
    refine run.mono fun request s a s' hserved => ?_
    cases hserved with
    | storage served channel =>
      obtain ⟨rfl, rfl⟩ := Prod.mk.inj served
      exact .storage (.obeyed _ _) channel
    | pay request s => exact .pay request s
    | announce event m channel => exact .announce event m channel
  have hasks : Confined (Keeps visit.user) visit.user (fun _ => True)
      (visit.request.perform shop visit.moment visit.user) := .perform (covers_keeps visit.user) _
  obtain ⟨e', m', hs₁, hmirrors, hrun'⟩ := runs_mirrored hasks h hroot hshort run'
  obtain ⟨cart, orders, hbooks⟩ := books visit.user
  obtain ⟨rfl, hs'⟩ := hbooks.perform_unique hrun hrun'
  have hs₁' : s₁ = (t.plant place e', s'.2) := by
    rw [hs', ← hs₁]
  have hm' : Mirrors e' s'.1 := by
    rw [hs']
    exact hmirrors
  refine ⟨⟨rfl, hbooks.perform_ne_storage hrun, fun names data => ?_, ?_⟩, books.next hrun, e', hs₁', hm'⟩
  · rw [hs₁']
    show (t.plant place e').root.get? (place ++ names) = _ ↔ _
    rw [hroot.emptyFolder.get?_plant, ← Files.Entry.look_eq_file_iff]
    exact hm'.held names data
  · rw [hs₁']

/-! ## All visits -/

theorem Session.agree {visits : List Visit}
    {outcomes : List (Except ShopError Response × Memory × Channel OrderPlaced)}
    {outcomes' : List (Except ShopError Response × Tree × Channel OrderPlaced)} (h : Mirrors e m)
    (books : AllBooks m) (hroot : EmptyRoot t text place)
    (hshort : ∀ visit ∈ visits, visit.user.text.utf8ByteSize ≤ idLimit)
    (session : Session memoryStorage shop visits (m, channel) outcomes)
    (session' : Session (folderStorage text) shop visits (t.plant place e, channel) outcomes') :
    List.Forall₂ (Agrees place) outcomes outcomes' := by
  induction visits generalizing e m channel outcomes outcomes' with
  | nil =>
    cases session
    cases session'
    exact .nil
  | cons visit visits ih =>
    cases session with
    | visit run rest =>
      cases session' with
      | visit run' rest' =>
        obtain ⟨hagrees, hbooks, e', rfl, hmirrors⟩ :=
          Visit.agrees h books hroot (hshort visit List.mem_cons_self) run run'
        exact .cons hagrees
          (ih hmirrors hbooks (fun visit hvisit => hshort visit (List.mem_cons_of_mem _ hvisit)) rest rest')

/-- Memory and a folder agree, visit by visit. -/
theorem backends_agree (hroot : EmptyRoot t text place) (shop : Shop) (visits : List Visit)
    (hshort : ∀ visit ∈ visits, visit.user.text.utf8ByteSize ≤ idLimit) (channel : Channel OrderPlaced) :
    BackendsAgree shop visits channel t text place where
  inMemory := exists_session memoryStorage_total shop visits _
  inFolder := exists_session (folderStorage_total text) shop visits _
  agree outcomes outcomes' session session' := by
    rw [← hroot.emptyFolder.plant_empty] at session'
    exact Session.agree (.start_empty _) allBooks_empty hroot hshort session session'

/-! ## An empty folder -/

namespace Sample

/-- Nothing but an empty folder. -/
def tree : Tree := ⟨.folder [("d", .folder [])], []⟩

/-- A path to this folder that first stays where it is for some steps. -/
def detour : Nat → List Char
  | 0 => ['d']
  | n + 1 => '.' :: '/' :: detour n

/-- A buyer fills a cart and places it. -/
def visits : List Visit :=
  [⟨⟨buyer, moment, .add "A"⟩, fun _ => .ok "address"⟩, ⟨⟨buyer, moment, .place⟩, fun _ => .ok "address"⟩]

theorem ofText_detour (n : Nat) :
    Path.ofText (String.ofList (detour n)) = List.replicate n "." ++ ["d"] := by
  have hsegments : Text.segments '/' (detour n) = List.replicate n ['.'] ++ [['d']] := by
    induction n with
    | zero => rfl
    | succ n ih => simp [detour, Text.segments, ih, List.replicate_succ]
  have hne : String.ofList (detour n) ≠ "" := by
    intro hnil
    have hlist := congrArg String.toList hnil
    cases n <;> simp [detour] at hlist
  rw [Path.ofText, if_neg hne, String.toList_ofList, hsegments, List.map_append, List.map_replicate]
  rfl

theorem size_detour (n : Nat) {rest : Path} (hrest : rest ≠ []) :
    Path.size (List.replicate n "." ++ rest) = 2 * n + Path.size rest := by
  induction n with
  | zero => simp
  | succ n ih =>
    have hpoint : ".".utf8ByteSize = 1 := by decide
    have hne : List.replicate n "." ++ rest ≠ [] := List.append_ne_nil_of_right_ne_nil _ hrest
    obtain ⟨first, others, hcons⟩ := List.exists_cons_of_ne_nil hne
    rw [List.replicate_succ, List.cons_append]
    rw [hcons] at ih ⊢
    show ".".utf8ByteSize + 1 + Path.size (first :: others) = _
    rw [ih, hpoint]
    omega

/-- The steps that stay make no difference. -/
theorem leads_detour (n : Nat) : tree.leads (List.replicate n "." ++ ["d"]) = .ok ["d"] := by
  induction n with
  | zero => rfl
  | succ n ih =>
    unfold Tree.leads at ih ⊢
    rw [List.replicate_succ, List.cons_append, List.foldlM_cons]
    exact ih

theorem find_detour {n : Nat} (hshort : 2 * n + 1 ≤ Tree.pathLimit) :
    tree.find (Path.ofText (String.ofList (detour n))) = .ok (["d"], .folder []) := by
  have hsize : Path.size (Path.ofText (String.ofList (detour n))) = 2 * n + 1 := by
    rw [ofText_detour, size_detour n (List.cons_ne_nil _ _)]
    rfl
  have hrelative : (List.replicate n "." ++ ["d"]).head? ≠ some "" := by
    cases n <;> simp [List.replicate_succ]
  have hway : tree.way (Path.ofText (String.ofList (detour n))) = .ok (List.replicate n "." ++ ["d"]) := by
    rw [Tree.way, if_neg (by omega), ofText_detour, Path.isAbsolute, decide_eq_false hrelative]
    rfl
  exact Files.find_eq_ok hway (leads_detour n) rfl

/-- The cart cannot be fetched below a path that is too long. -/
theorem storage_detour {n : Nat} (hlong : Tree.pathLimit < 2 * n + 11) :
    folderStorage (String.ofList (detour n)) (.get (cartKey buyer)) tree
      (.error (.file (cartKey buyer) .nameTooLong)) tree := by
  refine ⟨_, _, Storage.isSuffix_zeros, ?_, .refl _ _⟩
  have hpath : (Path.ofText (String.ofList (detour n))).join (components (cartKey buyer)) =
      List.replicate n "." ++ ["d", "carts", "bob"] := by
    have hlast : (List.replicate n "." ++ ["d"]).getLast? ≠ some "" := by
      rw [List.getLast?_concat]
      decide
    rw [components_cartKey, ofText_detour, Path.join, if_neg hlast, List.append_assoc]
    rfl
  have hsize : Tree.pathLimit < Path.size (List.replicate n "." ++ ["d", "carts", "bob"]) := by
    have hbelow : Path.size ["d", "carts", "bob"] = 11 := by decide
    rwa [size_detour n (List.cons_ne_nil _ _), hbelow]
  have hfind : tree.find ((Path.ofText (String.ofList (detour n))).join (components (cartKey buyer))) =
      .error .nameTooLong := by
    rw [hpath, Tree.find, Tree.way, if_pos hsize]
    rfl
  have hread : Tree.perform
      (.read ((Path.ofText (String.ofList (detour n))).join (components (cartKey buyer)))) tree =
        (.error .nameTooLong, tree) := by
    simp only [Tree.perform, hfind]
  simp only [Storage.Folder.answer, Storage.readKey, isKey_cartKey, if_true]
  exact Files.exec_perform_bind hread

/-- So nothing can be added to it. -/
theorem run_detour {n : Nat} (hlong : Tree.pathLimit < 2 * n + 11) :
    ∃ trace, Visit.Runs ⟨⟨buyer, moment, .add "A"⟩, fun _ => .ok "address"⟩
      (folderStorage (String.ofList (detour n))) Sample.shop (tree, scene.channel) trace
      (.error (.storage (.file (cartKey buyer) .nameTooLong))) (tree, scene.channel) := by
  have hget : ∃ trace, Program.Runs
      (ServedBy (folderStorage (String.ofList (detour n))) fun _ => .ok "address")
      (onStorage (.get (cartKey buyer))).run (tree, scene.channel) trace
      (.error (.storage (.file (cartKey buyer) .nameTooLong))) (tree, scene.channel) :=
    ⟨_, .call (.storage (storage_detour hlong) _) (.done _ _)⟩
  obtain ⟨trace, hget⟩ := hget
  refine ⟨trace, Program.runs_except_map_iff.2 ⟨.error _, rfl, ?_⟩⟩
  unfold addToCart
  rw [get?_product]
  -- nothing follows upon the first call
  refine Program.runs_except_bind_iff.2 (.inl ⟨_, rfl, ?_⟩)
  refine Program.runs_except_bind_iff.2 (.inl ⟨_, rfl, ?_⟩)
  exact Program.runs_except_bind_iff.2 (.inl ⟨_, rfl, hget⟩)

theorem tidy_tree : tree.root.Tidy := Files.Entry.tidy_empty.singleton "d"

end Sample

/-- The path without a detour is short enough. -/
theorem backends_agree_sample :
    EmptyRoot Sample.tree "d" ["d"] ∧
      (∀ visit ∈ Sample.visits, visit.user.text.utf8ByteSize ≤ idLimit) ∧
      BackendsAgree Sample.shop Sample.visits Sample.scene.channel Sample.tree "d" ["d"] := by
  have hroot : EmptyRoot Sample.tree "d" ["d"] := by
    refine ⟨Sample.tidy_tree, ?_, by decide⟩
    exact Sample.find_detour (n := 0) (by decide)
  have hshort : ∀ visit ∈ Sample.visits, visit.user.text.utf8ByteSize ≤ idLimit := by decide
  exact ⟨hroot, hshort, backends_agree hroot Sample.shop Sample.visits hshort _⟩

/-- The path with a long detour leads to the empty folder as well, but the path of a document below it is too
long. So the shop that has its documents in memory serves the buyer, and the other one does not. -/
theorem backends_disagree :
    Sample.tree.root.Tidy ∧
      Sample.tree.find (Path.ofText (String.ofList (Sample.detour 2045))) = .ok (["d"], .folder []) ∧
      (∀ visit ∈ Sample.visits, visit.user.text.utf8ByteSize ≤ idLimit) ∧
      ¬ BackendsAgree Sample.shop Sample.visits Sample.scene.channel Sample.tree
        (String.ofList (Sample.detour 2045)) ["d"] := by
  refine ⟨Sample.tidy_tree, Sample.find_detour (by decide), by decide, fun h => ?_⟩
  obtain ⟨trace, hfailed⟩ := Sample.run_detour (n := 2045) (by decide)
  obtain ⟨outcomes, session⟩ := h.inMemory
  obtain ⟨later, hlater⟩ := exists_session
    (folderStorage_total (String.ofList (Sample.detour 2045))) Sample.shop Sample.visits.tail
    (Sample.tree, Sample.scene.channel)
  have hagree := h.agree _ _ session (.visit hfailed hlater)
  cases hagree with
  | cons hfirst => exact hfirst.unfailed _ hfirst.result.symm

end Storefront.Shop
