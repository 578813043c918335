import ModMerge.EntityRange
import ModMerge.Text.LowerCase

/-!
# Directives

A directive is a word that begins a line of a mod and may name content by its id. The
table `directiveTable` says for each word which type of content it names, whether it
creates, selects or merely uses that content, and how a number after it is read.
`lookup` finds the entries of a word; where a word has several, `pickRef` chooses by the
block it stands in.
-/

namespace ModMerge

/-- What a directive does to the content it names. -/
inductive Role where
  /-- It creates content; without an id, the id is assigned later. -/
  | new
  /-- It opens existing content for editing. -/
  | select
  /-- It refers to content. -/
  | usage
deriving DecidableEq, Repr

/-- Creating and selecting directives define what a mod touches. -/
def Role.isDefinition (role : Role) : Bool :=
  role != .usage

/-- A group of directives that share a role and read their argument alike. -/
structure DirectiveRule where
  role : Role
  /-- The words of the group, in lower case and without the leading `#`. -/
  words : List String
  /-- Whether the directive opens a block that `#end` closes. -/
  opensBlock : Bool := false
  /-- The type that a negative argument names by its absolute value. -/
  negativeType : Option EntityType := none
  /-- Whether an argument that is not negative names content. -/
  acceptsPositive : Bool := true
  /-- The word that replaces a creating directive once its id is assigned; without one the
  directive stays and the id is appended. -/
  implicitSelect : Option String := none
deriving DecidableEq, Repr

/-- One meaning of a directive word: the type it names, and the rule it follows. -/
structure DirectiveRef where
  type : EntityType
  rule : DirectiveRule
deriving DecidableEq, Repr

/-- The content that a number after the directive names, if the directive takes a number
of that sign. -/
def DirectiveRef.resolve (ref : DirectiveRef) (number : Int) : Option EntityId :=
  if number < 0 then
    ref.rule.negativeType.map fun type => ⟨type, -number⟩
  else if ref.rule.acceptsPositive then
    some ⟨ref.type, number⟩
  else
    none

/-- The words that refer to a monster, or to a montag by a negative number. -/
def monsterUsageWords : List String := [
    "copyspr", "monpresentrec", "ownsmonrec", "raiseshape", "shapechange", "prophetshape",
    "firstshape", "secondshape", "secondtmpshape", "forestshape", "plainshape",
    "foreignshape", "homeshape", "springshape", "summershape", "autumnshape", "wintershape",
    "landshape", "watershape", "twiceborn", "domsummon", "domsummon2", "domsummon20",
    "raredomsummon", "templetrainer", "makemonsters1", "makemonsters2", "makemonsters3",
    "makemonsters4", "makemonsters5", "summon1", "summon2", "summon3", "summon4", "summon5",
    "battlesum1", "battlesum2", "battlesum3", "battlesum4", "battlesum5", "batstartsum1",
    "batstartsum2", "batstartsum3", "batstartsum4", "batstartsum5", "batstartsum1d3",
    "batstartsum1d6", "batstartsum2d6", "batstartsum3d6", "batstartsum4d6", "batstartsum5d6",
    "batstartsum6d6", "batstartsum7d6", "batstartsum8d6", "batstartsum9d6", "farsumcom",
    "onlymnr", "homemon", "homecom", "mon", "com", "summon", "summonlvl2", "summonlvl3",
    "summonlvl4", "startcom", "coastcom1", "coastcom2", "addforeignunit", "addforeigncom",
    "forestrec", "mountainrec", "swamprec", "wasterec", "caverec", "startscout", "forestcom",
    "mountaincom", "swampcom", "wastecom", "cavecom", "startunittype1", "startunittype2",
    "addrecunit", "addreccom", "uwrec", "uwcom", "coastunit1", "coastunit2", "coastunit3",
    "landrec", "landcom", "hero1", "hero2", "hero3", "hero4", "hero5", "hero6", "hero7",
    "hero8", "hero9", "hero10", "multihero1", "multihero2", "multihero3", "multihero4",
    "multihero5", "multihero6", "multihero7", "defcom1", "defcom2", "defunit1", "defunit1b",
    "defunit1c", "defunit1d", "defunit2", "defunit2b", "addgod", "delgod", "cheapgod20",
    "cheapgod40", "guardspirit", "transform", "fireboost", "airboost", "waterboost",
    "earthboost", "astralboost", "deathboost", "natureboost", "bloodboost", "holyboost",
    "req_monster", "req_2monsters", "req_5monsters", "req_nomonster", "req_mnr", "req_nomnr",
    "req_deadmnr", "req_targmnr", "req_targnomnr", "assassin", "stealthcom", "2com", "4com",
    "5com", "1unit", "1d3units", "2d3units", "3d3units", "4d3units", "1d6units", "2d6units",
    "3d6units", "4d6units", "5d6units", "6d7units", "7d6units", "8d6units", "9d6units",
    "10d6units", "11d6units", "12d6units", "13d6units", "14d6units", "15d6units", "16d6units",
    "killmon", "kill2d6mon", "killcom", "copystats", "xpshapemon", "coridermnr", "mountmnr",
    "lich", "battleshape", "worldshape", "animated", "domshape", "notdomshape", "slaver",
    "natmon", "natcom", "wallcom", "wallunit", "uwwallunit", "uwwallcom", "defcom", "defunit",
    "farmrec", "driprec", "coastrec", "searec", "deeprec", "kelprec", "forestfortrec",
    "mountainfortrec", "swampfortrec", "wastefortrec", "farmfortrec", "cavefortrec",
    "dripfortrec", "coastfortrec", "seafortrec", "deepfortrec", "kelpfortrec", "farmcom",
    "dripcom", "coastcom", "seacom", "deepcom", "kelpcom", "forestfortcom", "mountainfortcom",
    "swampfortcom", "wastefortcom", "farmfortcom", "cavefortcom", "dripfortcom",
    "coastfortcom", "seafortcom", "deepfortcom", "kelpfortcom", "req_godismnr",
    "req_godisnotmnr", "guardcom", "guardunit", "notmnr", "uwdefcom1", "uwdefcom2",
    "uwdefunit1", "uwdefunit1b", "uwdefunit1c", "uwdefunit1d", "uwdefunit2", "uwdefunit2b"]

/-- The rules of each type. -/
def directiveRules : EntityType → List DirectiveRule
  | .weapon => [
      { role := .new, words := ["newweapon"], opensBlock := true },
      { role := .select, words := ["selectweapon"], opensBlock := true },
      { role := .usage
        words := ["weapon", "copyweapon", "secondaryeffect", "secondaryeffectalways"] }]
  | .armor => [
      { role := .new, words := ["newarmor"], opensBlock := true },
      { role := .select, words := ["selectarmor"], opensBlock := true },
      { role := .usage, words := ["armor", "copyarmor"] }]
  | .monster => [
      { role := .new, words := ["newmonster"], opensBlock := true },
      { role := .select, words := ["selectmonster"], opensBlock := true },
      { role := .usage, words := monsterUsageWords, negativeType := some .montag }]
  | .spell => [
      { role := .new
        words := ["newspell"]
        opensBlock := true
        implicitSelect := some "selectspell" },
      { role := .select, words := ["selectspell"], opensBlock := true },
      { role := .usage, words := ["copyspell", "nextspell"] }]
  | .item => [
      { role := .new
        words := ["newitem"]
        opensBlock := true
        implicitSelect := some "selectitem" },
      { role := .select, words := ["selectitem"], opensBlock := true },
      { role := .usage
        words := ["startitem", "copyitem", "copyspr", "req_targitem", "req_targnoitem",
          "req_worlditem", "req_noworlditem"] }]
  | .site => [
      { role := .new, words := ["newsite"], opensBlock := true },
      { role := .select, words := ["selectsite"], opensBlock := true },
      { role := .usage
        words := ["godsite", "req_nositenbr", "startsite", "addsite", "removesite",
          "hiddensite", "futuresite", "islandsite", "onlyatsite", "onlysitedst"] }]
  | .nation => [
      { role := .new
        words := ["newnation"]
        opensBlock := true
        implicitSelect := some "selectnation" },
      { role := .select, words := ["selectnation"], opensBlock := true },
      { role := .usage
        words := ["nation", "restricted", "notfornation", "nationrebate", "req_nation",
          "req_nonation", "req_fornation", "req_notfornation", "req_notnation",
          "req_notforally", "req_fullowner", "req_domowner", "req_targowner", "assowner",
          "extramsg", "nat", "req_targnotowner"] }]
  | .nameType => [
      { role := .select, words := ["selectnametype"], opensBlock := true },
      { role := .usage, words := ["nametype"] }]
  | .enchantment => [
      { role := .usage
        words := ["enchrebate50", "enchrebate20", "enchrebate10", "req_noench", "req_ench",
          "req_myench", "req_friendlyench", "req_hostileench", "req_enchdom", "nationench",
          "enchrebate25p", "enchrebate50p"] }]
  | .eventCode => [
      { role := .select
        words := ["code", "code2"]
        negativeType := some .eventCode
        acceptsPositive := false },
      { role := .usage
        words := ["resetcode", "req_code", "req_anycode", "req_notanycode",
          "req_nearbycode", "req_nearowncode", "codedelay", "codedelay2",
          "resetcodedelay", "resetcodedelay2"]
        negativeType := some .eventCode
        acceptsPositive := false }]
  | .popType => [{ role := .select, words := ["poptype"] }]
  | .montag => [{ role := .select, words := ["montag"] }]
  | .restrictedItem => [
      { role := .select, words := ["restricteditem"] },
      { role := .usage, words := ["userestricteditem"] }]

/-- All meanings of all directives: types in canonical order, and the rules of a type in
the order of its list. -/
def directiveTable : List DirectiveRef :=
  EntityType.all.flatMap fun type => (directiveRules type).map fun rule => ⟨type, rule⟩

/-- The meanings of a directive word that is in lower case. -/
def refsOfWord (word : String) : List DirectiveRef :=
  directiveTable.filter fun ref => ref.rule.words.contains word

/-- The meanings of a directive word in any case. -/
def lookup (word : String) : List DirectiveRef :=
  refsOfWord (Text.lowerCaseString word)

/-- Among the meanings of a word, the one that opens a block. -/
def blockStartRef? (refs : List DirectiveRef) : Option DirectiveRef :=
  refs.find? fun ref => ref.rule.opensBlock

/-- Among the meanings of a word, the one for the type of the block it stands in, and
otherwise the first. -/
def pickRef (refs : List DirectiveRef) (activeType : Option EntityType) :
    Option DirectiveRef :=
  match activeType with
  | none => refs.head?
  | some type => (refs.find? fun ref => ref.type == type).or refs.head?

/-- A word that is in the table has a meaning. -/
theorem mem_refsOfWord (word : String) (ref : DirectiveRef) :
    ref ∈ refsOfWord word ↔ ref ∈ directiveTable ∧ word ∈ ref.rule.words := by
  simp [refsOfWord]

/-- A picked meaning is one of the word's meanings. -/
theorem pickRef_mem (refs : List DirectiveRef) (activeType : Option EntityType)
    (ref : DirectiveRef) (picked : pickRef refs activeType = some ref) : ref ∈ refs := by
  unfold pickRef at picked
  split at picked
  · exact List.mem_of_mem_head? picked
  · rcases Option.or_eq_some_iff.1 picked with found | ⟨_, first⟩
    · exact List.mem_of_find?_eq_some found
    · exact List.mem_of_mem_head? first

end ModMerge
