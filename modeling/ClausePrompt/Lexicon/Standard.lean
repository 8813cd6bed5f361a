import ClausePrompt.Lexicon

namespace ClausePrompt.Lexicon

-- The keywords every authoring context starts with, in menu order.
def standardKeywords : List Keyword := [
  { id := "in", shape := .singleToken, shortcut := { key := 'Q' }
    description := "For specifying the language you want the output to be in."
    examples := ["*in* swift"] },
  { id := "for", shape := .singleToken, shortcut := { key := 'W' }
    description := "For choosing the app platform you're building"
    examples := ["*for* apple phone"] },
  { id := "context", shape := .indexRange, shortcut := { key := 'E' }
    rules := { numeric := .all }
    description := "Allows you to reference code using index number shortcut."
    examples := ["*context* 39", "*context* 39; 45", "*context* 39 to 45"] },
  { id := "line", shape := .tokenPair, shortcut := { key := 'R' }
    rules := { numeric := .last }
    description := "For specifying what line the code should be in"
    examples := ["*line* 150", "*line* react; 150"] },
  { id := "chimcontext", shape := .idReference, shortcut := { key := 'T' }
    description := "Allows you to reference code using code id"
    examples := ["*chimcontext* 4535hevne53354"] },
  { id := "prompt", shape := .idReference, shortcut := { key := 'Y' }
    rules := { bracketedAlias := true }
    description := "Load a local prompt name saved in library"
    examples := ["*prompt* saved1", "*prompt* [homepage]"] },
  { id := "chimprompt", shape := .idReference, shortcut := { key := 'U' }
    description := "To load a public prompt name"
    examples := ["*chimprompt* richardssearchbar"] },
  { id := "spawn", shape := .tokenPair, shortcut := { key := 'I' }
    description := "To create visually similar entire page from program"
    examples := ["*spawn* instagram/ home page; instagram.com"] },
  { id := "rare", shape := .singleToken, shortcut := { key := 'O' }
    description := "Randomly creates a unique object"
    examples := ["*rare* search bar"] },
  { id := "create", shape := .singleToken, shortcut := { key := 'P' }
    description := "For specifying the object in particular you want to achieve"
    examples := ["*create* search bar"] },
  { id := "from", shape := .singleToken, shortcut := { key := 'A' }
    description := "For mimicking the appearance of an object from an already existing app"
    examples := ["*from* instagram/ search page"] },
  { id := "makeit", shape := .singleToken, shortcut := { key := 'S' }
    description := "For selecting if its gonna be auto hiding (dynamic) or static"
    examples := ["*makeit* static"] },
  { id := "like", shape := .singleToken, shortcut := { key := 'D' }
    description := "For mimicking the functionality of a similar object"
    examples := ["*like* snapchat/ explore page"] },
  { id := "but", shape := .singleToken, shortcut := { key := 'F' }
    description := "For replacing abstract attributes and adding exact dimensions"
    examples := [
      "*but* fire edges that turn cold when inactive for 1 minute; top center; rectangle; 4:5; " ++
        "35"] },
  { id := "with", shape := .singleToken, shortcut := { key := 'G' }
    description := "For adding abstract attributes"
    examples := ["*with* fire edges"] },
  { id := "without", shape := .singleToken, shortcut := { key := 'H' }
    description := "For removing abstract attributes"
    examples := ["*without* search icon on the end"] },
  { id := "nextto", shape := .positionalReference, shortcut := { key := 'J' }
    description := "Reference position relative to an object"
    examples := [
      "*nextto* left (search bar)",
      "*nextto* within left (loading screen)",
      "*nextto* within bottom right (checkout page)",
      "*nextto* above (share sheet)",
      "*nextto* within below (chat screen)"] },
  { id := "blame", shape := .singleToken, shortcut := { key := 'K' }
    description := "For specifying a problem you want to make sure doesn't occur"
    examples := ["*blame* instagram / search page"] },
  { id := "animate", shape := .keyedList, shortcut := { key := 'L' }
    description := "For adding an animation for when tapped and speed"
    examples := ["*animate* start(3; appear); end(5, fade out)"] },
  { id := "background", shape := .variantPair, shortcut := { key := 'Z' }
    description := "For the background colour"
    examples := ["*background* ffffffff", "*background* light(ffffffff); dark(00000000)"] },
  { id := "font", shape := .variantPair, shortcut := { key := 'X' }
    rules := { mixedSegments := true }
    description := "For specifying what the font will be if applicable"
    examples := [
      "*font* aerial; center; ffffffff; 15",
      "*font* aerial; left; light(00000000); dark(ffffffff); 15"] },
  { id := "maybe", shape := .singleToken, shortcut := { key := 'C' }
    description := "Allows you to describe what you want in your own words"
    examples := ["*maybe* snapchat search bar with a bit of instagram feel"] },
  { id := "then", shape := .tokenPair, shortcut := { key := 'V' }
    description := "For replicating the same edits and using it to create multiple codes"
    examples := ["*then* loading screen; checkout page"] },
  { id := "forge", shape := .parenthesizedName, shortcut := { key := 'B' }
    rules := { leadingMembers := true }
    description := "Save a configuration for a component"
    examples := ["*forge* instagram / search page; (ig bias)", "*forge* (ig bias)"] },
  { id := "mold", shape := .bracketedName, shortcut := { key := 'N' }
    rules := { leadingMembers := true }
    description := "Make multiple objects be part of a single page"
    examples := ["*mold* loading screen; checkout page; [home page]", "*mold* [home page]"] },
  { id := "jump", shape := .singleToken, shortcut := { key := 'M' }
    description := "Auto arrange prompts in order of importance"
    examples := ["*jump* descending", "*jump* ascending", "*jump* reset"] }]

def standard : Lexicon := ⟨standardKeywords, by decide, by decide⟩

end ClausePrompt.Lexicon
