/-
# A manager answers from its history

A program adds skins, loads them from files and directories and activates them, and may do other
things meanwhile; those who are notified may activate skins as well. What a call adds to the history
of a manager can be told from its answer.

| call | adds to the history | answer |
| --- | --- | --- |
| a skin is added | the skin | |
| a file is loaded | its skin, if there is one | the name, or why there is none |
| a directory is loaded | the skins of its files | their names |
| a name is activated | the activation, if the name is known, and what follows from it | |

Lookups are answered from the skin that the history makes the active one, and by nothing for what it
lacks (`skins_recalled`).
-/

import Theming.Proofs.Candor
import Theming.Proofs.Runs

namespace Theming
namespace Live

variable {short : Prop} {id : ManagerId} {others : SkinEvent → Prop} {act : Act} {w w' : World}
  {skins : List Skin}

/-! ## Adding skins -/

namespace SkinManager

/-- The manager with skins that are added one after the other. -/
def addAll (m : SkinManager) (skins : List Skin) : SkinManager := skins.foldl add m

theorem replay?_added (m : SkinManager) (skins : List Skin) :
    m.replay? (skins.map .added) = some (m.addAll skins) := by
  induction skins generalizing m with
  | nil => rfl
  | cons skin rest ih => exact ih (m.add skin)

theorem active_addAll {m : SkinManager} {skin : Skin} (h : m.active = some skin)
    (skins : List Skin) : (m.addAll skins).active = some skin := by
  induction skins generalizing m with
  | nil => exact h
  | cons other rest ih =>
    refine ih ?_
    rw [add, h]
    rfl

end SkinManager

/-- Skins are added to a manager, and nothing else is done but to tell of it. -/
def Adds (id : ManagerId) (skins : List Skin) (w w' : World) : Prop :=
  ∃ told : List (Log.Level × String), w' = { w with
    managers := w.managers.modify id fun m => m.addAll skins
    trace := w.trace ++ told.map fun t => .told t.1 t.2 }

namespace Adds

variable {w'' : World} {more : List Skin}

theorem of_told (w : World) (id : ManagerId) (told : List (Log.Level × String)) :
    Adds id [] w { w with trace := w.trace ++ told.map fun t => .told t.1 t.2 } := by
  have hsame : w.managers.modify id (fun m => m.addAll []) = w.managers := List.modify_id _ _
  refine ⟨told, ?_⟩
  rw [hsame]

theorem refl (w : World) (id : ManagerId) : Adds id [] w w := by
  simpa using of_told w id []

theorem tell (w : World) (id : ManagerId) (level : Log.Level) (message : String) :
    Adds id [] w (w.tell level message) := of_told w id [(level, message)]

theorem trans (h : Adds id skins w w') (h' : Adds id more w' w'') :
    Adds id (skins ++ more) w w'' := by
  obtain ⟨told, rfl⟩ := h
  obtain ⟨told', rfl⟩ := h'
  have hboth : (fun m : SkinManager => m.addAll (skins ++ more)) =
      (fun m => m.addAll more) ∘ fun m => m.addAll skins :=
    funext fun m => List.foldl_append
  refine ⟨told ++ told', ?_⟩
  rw [hboth, List.map_append, ← List.append_assoc, List.modify_modify_eq]

theorem addSkin (w : World) (id : ManagerId) (skin : Skin) :
    Adds id [skin] w (w.addSkin id skin) := by
  have hadds : ∀ w : World, Adds id [skin] w (w.modifyManager id fun m => m.add skin) := by
    intro w
    refine ⟨[], ?_⟩
    rw [List.map_nil, List.append_nil]
    rfl
  rw [World.addSkin]
  split_ifs
  · exact hadds w
  · exact (tell w id .debug ("Skin " ++ skin.name ++ " is now active")).trans (hadds _)

/-- What is added is told by the history of the manager. -/
theorem recounts (h : Adds id skins w w') : Recounts id w (skins.map .added) w' := by
  obtain ⟨told, rfl⟩ := h
  intro m hm
  refine ⟨m.addAll skins, ?_, m.replay?_added skins⟩
  rw [List.getElem?_modify, hm]
  simp

/-- **Adding skins leaves the active one.** -/
theorem active (h : Adds id skins w w') (hactive : (w.manager id).active.isSome = true) :
    (w'.manager id).active = (w.manager id).active := by
  obtain ⟨told, rfl⟩ := h
  obtain ⟨skin, hskin⟩ := Option.isSome_iff_exists.mp hactive
  rw [hskin]
  rw [World.manager] at hskin ⊢
  rw [List.getElem?_modify]
  cases hm : w.managers[id]? with
  | none =>
    rw [hm] at hskin
    cases hskin
  | some m =>
    rw [hm] at hskin
    simpa using SkinManager.active_addAll hskin skins

end Adds

/-! ## Loading skins -/

/-- The skins of files, in order, without those that are none. -/
def skinsOf (tree : FileTree) (paths : List String) : List Skin :=
  paths.filterMap fun path => (Skin.load tree path).toOption

/-- The skins of the files of a directory, or why the directory cannot be read. -/
def skinsIn (tree : FileTree) (directory : String) : Except SkinError (List Skin) :=
  if tree.contains directory = true then
    match tree.namesIn directory with
    | .error fault => .error (.unreadable directory fault)
    | .ok names => .ok (skinsOf tree (World.skinFiles directory names))
  else .ok []

/-- A file that is no skin is refused, and nothing is done. -/
theorem loadSkin_of_error {tree : FileTree} {path : String} {e : SkinError}
    (h : Skin.load tree path = .error e) (w : World) (id : ManagerId) :
    w.loadSkin tree id path = (.error e, w) := by
  rw [World.loadSkin, h]

theorem loadSkin_of_ok {tree : FileTree} {path : String} {skin : Skin}
    (h : Skin.load tree path = .ok skin) (w : World) (id : ManagerId) :
    (w.loadSkin tree id path).1 = .ok skin.name ∧
      Adds id [skin] w (w.loadSkin tree id path).2 := by
  rw [World.loadSkin, h]
  exact ⟨rfl, (Adds.tell w id _ _).trans (Adds.addSkin _ id skin)⟩

/-- **Files that are no skins are skipped**, which is only told. -/
theorem loadFiles_adds (w : World) (tree : FileTree) (id : ManagerId) (paths : List String) :
    (w.loadFiles tree id paths).1 = (skinsOf tree paths).map (fun skin => skin.name) ∧
      Adds id (skinsOf tree paths) w (w.loadFiles tree id paths).2 := by
  induction paths generalizing w with
  | nil => exact ⟨rfl, .refl w id⟩
  | cons path rest ih =>
    rw [World.loadFiles]
    cases hload : Skin.load tree path with
    | error e =>
      have hskins : skinsOf tree (path :: rest) = skinsOf tree rest := by
        rw [skinsOf, List.filterMap_cons, hload]
        rfl
      rw [loadSkin_of_error hload, hskins]
      obtain ⟨hnames, hadds⟩ := ih (w.tell .warn ("Skipping skin " ++ path ++ ": " ++ e.message))
      exact ⟨hnames, (Adds.tell w id _ _).trans hadds⟩
    | ok skin =>
      have hskins : skinsOf tree (path :: rest) = skin :: skinsOf tree rest := by
        rw [skinsOf, List.filterMap_cons, hload]
        rfl
      obtain ⟨hname, hadds⟩ := loadSkin_of_ok hload w id
      rw [hskins]
      generalize w.loadSkin tree id path = loaded at hname hadds
      obtain ⟨result, w₁⟩ := loaded
      obtain rfl : result = .ok skin.name := hname
      obtain ⟨hnames, hrest⟩ := ih w₁
      exact ⟨congrArg (skin.name :: ·) hnames, hadds.trans hrest⟩

theorem loadDirectory_adds (w : World) (tree : FileTree) (id : ManagerId) (directory : String) :
    (w.loadDirectory tree id directory).1 =
        (skinsIn tree directory).map (fun skins => skins.map fun skin => skin.name) ∧
      Adds id ((skinsIn tree directory).toOption.getD []) w
        (w.loadDirectory tree id directory).2 := by
  rw [World.loadDirectory, skinsIn]
  cases tree.contains directory with
  | false => exact ⟨rfl, .tell w id _ _⟩
  | true =>
    rw [if_pos rfl]
    cases tree.namesIn directory with
    | error fault => exact ⟨rfl, .refl w id⟩
    | ok names =>
      obtain ⟨hnames, hadds⟩ := loadFiles_adds w tree id (World.skinFiles directory names)
      exact ⟨congrArg Except.ok hnames, hadds⟩

/-! ## Lookups -/

theorem lookupColor_eq (w : World) (id : ManagerId) (key : ResourceId) :
    (w.lookupColor id key).1 =
      ((w.manager id).active.bind fun skin => skin.color? key).getD .transparent := by
  rw [World.lookupColor, SkinManager.color]
  cases (w.manager id).active with
  | none => rfl
  | some skin =>
    dsimp only [Option.bind_some]
    cases skin.color? key <;> rfl

theorem lookupDrawable_eq (w : World) (id : ManagerId) (key : ResourceId) :
    (w.lookupDrawable id key).1 =
      ((w.manager id).active.bind fun skin => skin.drawable? key).getD .empty := by
  rw [World.lookupDrawable, SkinManager.drawable]
  cases (w.manager id).active with
  | none => rfl
  | some skin =>
    dsimp only [Option.bind_some]
    cases skin.drawable? key <;> rfl

/-- Two worlds answer all lookups of a manager alike. -/
def SameLookups (id : ManagerId) (w w' : World) : Prop :=
  ∀ key, (w'.lookupColor id key).1 = (w.lookupColor id key).1 ∧
    (w'.lookupDrawable id key).1 = (w.lookupDrawable id key).1

theorem SameLookups.of_active (h : (w'.manager id).active = (w.manager id).active) :
    SameLookups id w w' := by
  intro key
  rw [lookupColor_eq, lookupColor_eq, lookupDrawable_eq, lookupDrawable_eq, h]
  exact ⟨rfl, rfl⟩

/-! ## Calls -/

/-- What a program does: a call on a manager, or something else whose effect on it can be told by
events of a kind. -/
inductive SkinCall (short : Prop) (id : ManagerId) (others : SkinEvent → Prop) where
  | add (skin : Skin)
  | load (tree : FileTree) (path : String)
  | loadAll (tree : FileTree) (directory : String)
  | activate (name : String)
  | aside (x : Step Unit) (h : Candid short id others x)

/-- What a call gives. -/
inductive SkinAnswer where
  | done
  | loaded (result : Except SkinError String)
  | loadedAll (result : Except SkinError (List String))
  | activated (result : Except SkinError Nat)

namespace SkinCall

/-- Makes a call. -/
def run (act : Act) : SkinCall short id others → Step SkinAnswer
  | add skin => do
    modify fun w => w.addSkin id skin
    return .done
  | load tree path => do
    let (result, w) := (← get).loadSkin tree id path
    set w
    return .loaded result
  | loadAll tree directory => do
    let (result, w) := (← get).loadDirectory tree id directory
    set w
    return .loadedAll result
  | activate name => return .activated (← Live.activate act id name)
  | aside x _ => do
    x
    return .done

/-- Makes calls one after the other. -/
def runAll (act : Act) : List (SkinCall short id others) → Step (List SkinAnswer)
  | [] => return []
  | call :: rest => do
    let answer ← call.run act
    return answer :: (← runAll act rest)

/-- What a call with an answer adds to the history. -/
inductive Tells : SkinCall short id others → SkinAnswer → List SkinEvent → Prop where
  | add (skin : Skin) : Tells (.add skin) .done [.added skin]
  | load {tree : FileTree} {path : String} {skin : Skin} (h : Skin.load tree path = .ok skin) :
      Tells (.load tree path) (.loaded (.ok skin.name)) [.added skin]
  | unloaded {tree : FileTree} {path : String} {e : SkinError}
      (h : Skin.load tree path = .error e) : Tells (.load tree path) (.loaded (.error e)) []
  | loadAll {tree : FileTree} {directory : String} {skins : List Skin}
      (h : skinsIn tree directory = .ok skins) :
      Tells (.loadAll tree directory) (.loadedAll (.ok (skins.map fun skin => skin.name)))
        (skins.map .added)
  | unread {tree : FileTree} {directory : String} {e : SkinError}
      (h : skinsIn tree directory = .error e) :
      Tells (.loadAll tree directory) (.loadedAll (.error e)) []
  /-- Those who are notified may do something to the manager as well. -/
  | activate (name : String) (listeners : Nat) {nested : List SkinEvent}
      (hnested : ∀ e ∈ nested, others e) :
      Tells (.activate name) (.activated (.ok listeners)) (.activated name :: nested)
  | unknown (name : String) : Tells (.activate name) (.activated (.error (.unknownSkin name))) []
  | aside (x : Step Unit) (h : Candid short id others x) {events : List SkinEvent}
      (hevents : ∀ e ∈ events, others e) : Tells (.aside x h) .done events

/-- What calls with their answers add to the history. -/
inductive TellAll : List (SkinCall short id others) → List SkinAnswer → List SkinEvent → Prop where
  | nil : TellAll [] [] []
  | cons {call : SkinCall short id others} {answer : SkinAnswer} {events : List SkinEvent}
      {calls : List (SkinCall short id others)} {answers : List SkinAnswer}
      {history : List SkinEvent} (hcall : call.Tells answer events)
      (hrest : TellAll calls answers history) :
      TellAll (call :: calls) (answer :: answers) (events ++ history)

/-- Answers tell what calls have added, if nobody else does anything to the manager. -/
theorem Tells.unique (hnobody : ∀ e, ¬ others e) {call : SkinCall short id others}
    {answer : SkinAnswer} {events events' : List SkinEvent} (h : call.Tells answer events)
    (h' : call.Tells answer events') : events = events' := by
  have hnone : ∀ {more : List SkinEvent}, (∀ e ∈ more, others e) → more = [] := fun hmore =>
    List.eq_nil_iff_forall_not_mem.mpr fun e he => hnobody e (hmore e he)
  cases h with
  | add skin => cases h'; rfl
  | @load tree path skin h =>
    generalize hanswer : SkinAnswer.loaded (.ok skin.name) = answer at h'
    cases h' with
    | load h₂ => rw [Except.ok.inj (h.symm.trans h₂)]
    | unloaded _ => cases hanswer
  | unloaded h => cases h'; rfl
  | @loadAll tree directory skins h =>
    generalize hanswer : SkinAnswer.loadedAll (.ok (skins.map fun skin => skin.name)) = answer at h'
    cases h' with
    | loadAll h₂ => rw [Except.ok.inj (h.symm.trans h₂)]
    | unread _ => cases hanswer
  | unread h => cases h'; rfl
  | activate name n hnested =>
    cases h' with
    | activate _ _ hnested₂ => rw [hnone hnested, hnone hnested₂]
  | unknown name => cases h'; rfl
  | aside x hx hevents =>
    cases h' with
    | aside _ _ hevents₂ => rw [hnone hevents, hnone hevents₂]

theorem TellAll.unique (hnobody : ∀ e, ¬ others e) {calls : List (SkinCall short id others)}
    {answers : List SkinAnswer} {history history' : List SkinEvent}
    (h : TellAll calls answers history) (h' : TellAll calls answers history') :
    history = history' := by
  induction h generalizing history' with
  | nil =>
    cases h'
    rfl
  | cons hcall _ ih =>
    cases h' with
    | cons hcall₂ hrest₂ => rw [hcall.unique hnobody hcall₂, ih hrest₂]

/-- **A call does to the manager what it tells.** -/
theorem run_tells (hact : ∀ v a, Candid short id others (act v a)) (call : SkinCall short id others)
    (w : World) : Gives short (call.run act) w fun answer w' =>
      ∃ events, call.Tells answer events ∧ Recounts id w events w' := by
  cases call with
  | add skin => exact Gives.modify_bind (Gives.pure ⟨_, .add skin, .addSkin w id skin⟩)
  | load tree path =>
    have hrun : (SkinCall.load tree path : SkinCall short id others).run act w =
      some (.loaded (w.loadSkin tree id path).1, (w.loadSkin tree id path).2) := rfl
    refine Gives.of_eq hrun ?_
    cases hload : Skin.load tree path with
    | error e =>
      rw [loadSkin_of_error hload]
      exact ⟨_, .unloaded hload, .still rfl⟩
    | ok skin =>
      obtain ⟨hname, hadds⟩ := loadSkin_of_ok hload w id
      rw [hname]
      exact ⟨_, .load hload, hadds.recounts⟩
  | loadAll tree directory =>
    have hrun : (SkinCall.loadAll tree directory : SkinCall short id others).run act w =
      some (.loadedAll (w.loadDirectory tree id directory).1,
        (w.loadDirectory tree id directory).2) := rfl
    refine Gives.of_eq hrun ?_
    obtain ⟨hnames, hadds⟩ := loadDirectory_adds w tree id directory
    rw [hnames]
    cases hskins : skinsIn tree directory with
    | error e =>
      rw [hskins] at hadds
      exact ⟨_, .unread hskins, hadds.recounts⟩
    | ok skins =>
      rw [hskins] at hadds
      exact ⟨_, .loadAll hskins, hadds.recounts⟩
  | activate name =>
    cases hskin : (w.manager id).skin? name with
    | none =>
      have hrefused : Gives short (Live.activate act id name) w fun r w' =>
          r = .error (.unknownSkin name) ∧ w' = w :=
        Gives.of_eq (activate_of_unknown hskin) ⟨rfl, rfl⟩
      refine hrefused.bind fun r w' h => Gives.pure ?_
      obtain ⟨rfl, rfl⟩ := h
      exact ⟨_, .unknown name, .still rfl⟩
    | some skin =>
      refine (activate_recounts hact name hskin).bind fun r w' h => Gives.pure ?_
      obtain ⟨⟨n, rfl⟩, nested, hnested, hrecounts⟩ := h
      exact ⟨_, .activate name n hnested, hrecounts⟩
  | aside x h =>
    refine (h w).bind fun _ w' h' => Gives.pure ?_
    obtain ⟨events, hevents, hrecounts⟩ := h'
    exact ⟨events, .aside x h hevents, hrecounts⟩

theorem runAll_tell (hact : ∀ v a, Candid short id others (act v a))
    (calls : List (SkinCall short id others)) (w : World) : Gives short (runAll act calls) w fun answers w' =>
      ∃ history, TellAll calls answers history ∧ Recounts id w history w' := by
  induction calls generalizing w with
  | nil => exact Gives.pure ⟨[], .nil, .still rfl⟩
  | cons call rest ih =>
    refine (call.run_tells hact w).bind fun answer w₁ h₁ => (ih w₁).bind fun answers w₂ h₂ =>
      Gives.pure ?_
    obtain ⟨events, hcall, hevents⟩ := h₁
    obtain ⟨history, hrest, hhistory⟩ := h₂
    exact ⟨events ++ history, .cons hcall hrest, hevents.trans hhistory⟩

end SkinCall

/-- How a manager answers the next call. -/
structure Serves (short : Prop) (act : Act) (id : ManagerId) (w : World) : Prop where
  /-- Colors that the active skin lacks are transparent. -/
  color : ∀ key, (w.lookupColor id key).1 =
    ((w.manager id).active.bind fun skin => skin.color? key).getD .transparent
  /-- Drawables that it lacks are empty. -/
  drawable : ∀ key, (w.lookupDrawable id key).1 =
    ((w.manager id).active.bind fun skin => skin.drawable? key).getD .empty
  /-- A name that is known can be activated. -/
  activates : ∀ name, ((w.manager id).skin? name).isSome = true →
    Gives short (activate act id name) w fun r _ => ∃ n, r = .ok n
  /-- Any other is refused, and nothing is done. -/
  refuses : ∀ name, (w.manager id).skin? name = none →
    activate act id name w = some (.error (.unknownSkin name), w)
  /-- Nothing is done with a file that is no skin. -/
  unloaded : ∀ tree path e, Skin.load tree path = .error e →
    w.loadSkin tree id path = (.error e, w)
  loads : ∀ tree path skin, Skin.load tree path = .ok skin →
    (w.loadSkin tree id path).1 = .ok skin.name ∧ Adds id [skin] w (w.loadSkin tree id path).2
  /-- In a directory such files are skipped, which is only told. -/
  directory : ∀ tree directory, (w.loadDirectory tree id directory).1 =
      (skinsIn tree directory).map (fun skins => skins.map fun skin => skin.name) ∧
    Adds id ((skinsIn tree directory).toOption.getD []) w (w.loadDirectory tree id directory).2
  adds : ∀ skin, Adds id [skin] w (w.addSkin id skin)
  /-- As soon as a skin is active, adding others changes no lookup. -/
  steady : ∀ skins w', (w.manager id).active.isSome = true → Adds id skins w w' →
    SameLookups id w w'

theorem serves (hact : ∀ v a, Candid short id others (act v a)) (w : World) :
    Serves short act id w where
  color := lookupColor_eq w id
  drawable := lookupDrawable_eq w id
  activates name hknown := by
    obtain ⟨skin, hskin⟩ := Option.isSome_iff_exists.mp hknown
    exact (activate_recounts hact name hskin).mono fun _ _ h => h.1
  refuses _ hunknown := activate_of_unknown hunknown
  unloaded _ _ _ h := loadSkin_of_error h w id
  loads _ _ _ h := loadSkin_of_ok h w id
  directory tree directory := loadDirectory_adds w tree id directory
  adds skin := .addSkin w id skin
  steady _ _ hactive hadds := .of_active (hadds.active hactive)

/-- **A manager answers from its history.** After any calls of a program on a new manager, what the
answers tell of has made it what it is, together with what others do who are notified, if they do
anything to the manager. The names under which skins were added are known, and just these can be
activated. Lookups are answered from the skin that the name activated last stood for at that moment,
or from the very first one as long as none was activated; adding skins changes them no more, once
there is one. What fails changes nothing and notifies nobody. -/
theorem skins_recalled {b : BroadcasterId} (hact : ∀ v a, Candid short id others (act v a))
    (hnew : w.managers[id]? = some ⟨b, [], none⟩) (calls : List (SkinCall short id others)) :
    Gives short (SkinCall.runAll act calls) w fun answers w' =>
      ∃ history, SkinCall.TellAll calls answers history ∧ (w'.manager id).Recalls history ∧
        Serves short act id w' := by
  refine (SkinCall.runAll_tell hact calls w).mono fun answers w' h => ?_
  obtain ⟨history, htell, hrecounts⟩ := h
  obtain ⟨m, hm, hreplay⟩ := hrecounts _ hnew
  have hmanager : w'.manager id = m := by
    rw [World.manager, hm]
    rfl
  rw [← hmanager] at hreplay
  exact ⟨history, htell, SkinManager.recalls_of_replay? rfl rfl hreplay, serves hact w'⟩

/-! ## A shelf of skins -/

namespace Shelf

def day : Skin := { name := "day", colors := [(1, .white)] }

def night : Skin := { name := "night", colors := [(1, .black)] }

/-- Another skin for the night. -/
def dusk : Skin := { name := "night", colors := [(1, ⟨0xFF202020⟩)] }

/-- Nothing has been added to the manager yet. -/
def bare : World := .opened .standard 1 [0]

/-- **Adding a skin changes lookups** if it is the first one. -/
theorem first_skin_shows : ¬ ∀ (skin : Skin) (key : ResourceId),
    ((bare.addSkin 0 skin).lookupColor 0 key).1 = (bare.lookupColor 0 key).1 := by
  intro h
  exact absurd (h day 1) (by decide)

/-- Nobody who is called may activate a skin. -/
def sparing : Action → Bool
  | .activate _ _ => false
  | _ => true

/-- The active skin is replaced. -/
def replaced : List (SkinCall True 0 fun _ => False) :=
  [.add day, .add night, .activate "night", .add dusk]

/-- A skin that is replaced while it is active still answers, and the history is what was done. -/
theorem night_stays : (∀ v a, Candid True 0 (fun _ => False) (performOnly sparing 1 v a)) ∧
    bare.managers[0]? = some ⟨0, [], none⟩ ∧
    ∃ answers w, SkinCall.runAll (performOnly sparing 1) replaced bare = some (answers, w) ∧
      (w.lookupColor 0 1).1 = .black ∧ (w.manager 0).skin? "night" = some dusk ∧
      (w.manager 0).Recalls [.added day, .added night, .activated "night", .added dusk] ∧
      Serves True (performOnly sparing 1) 0 w := by
  have hact : ∀ v a, Candid True 0 (fun _ => False) (performOnly sparing 1 v a) :=
    performOnly_candid nofun 1
  have hrun : SkinCall.runAll (performOnly sparing 1) replaced bare = some (_, _) := rfl
  obtain ⟨history, htell, hrecalls, hserves⟩ :=
    Gives.granted.mp (skins_recalled hact (w := bare) rfl replaced) _ _ hrun
  have hdone : SkinCall.TellAll replaced _
      [.added day, .added night, .activated "night", .added dusk] :=
    .cons (.add day) (.cons (.add night) (.cons (.activate "night" 0 (List.forall_mem_nil _))
      (.cons (.add dusk) .nil)))
  rw [htell.unique (fun _ => id) hdone] at hrecalls
  exact ⟨hact, rfl, _, _, hrun, by decide, by decide, hrecalls, hserves⟩

end Shelf

end Live
end Theming
