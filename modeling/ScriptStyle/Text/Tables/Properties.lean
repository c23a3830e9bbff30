/-!
# The table of properties

The code points that have a property, in runs that start at code point zero: `Y` and the number of
code points that have it, `N` and the number of those that do not. What lies behind the last run
does not have it. The names of a property stand without case and without the signs between words.
-/

namespace ScriptStyle.Characters

/-- The properties with the names that each answers to. -/
def propertyRuns : List (List String × List String) := [
  (["ahex", "asciihexdigit"],
    ["N48Y10N7Y6N26Y6"]),
  (["alpha", "alphabetic"],
    ["N65Y26N6Y26N47Y1N10Y1N4Y1N5Y23N1Y31N1Y458N4Y12N14Y5N7Y1N1Y1N86Y1N42Y5N1Y2N2Y4N1Y1N6Y1N1Y3",
     "N1Y1N1Y20N1Y83N1Y139N8Y166N1Y38N2Y1N6Y41N39Y14N1Y1N1Y2N1Y2N1Y1N8Y27N4Y4N29Y11N5Y56N1Y7N14",
     "Y102N1Y8N4Y8N4Y3N10Y3N2Y1N16Y48N13Y101N24Y33N9Y2N4Y1N5Y24N2Y19N19Y25N7Y11N5Y24N1Y6N17Y42",
     "N10Y12N3Y7N6Y76N1Y16N1Y3N4Y15N13Y19N1Y8N2Y2N2Y22N1Y7N1Y1N3Y4N3Y8N2Y2N2Y2N1Y1N8Y1N4Y2N1Y5",
     "N12Y2N10Y1N4Y3N1Y6N4Y2N2Y22N1Y7N1Y2N1Y2N1Y2N4Y5N4Y2N2Y2N4Y1N7Y4N1Y1N17Y6N11Y3N1Y9N1Y3N1Y22",
     "N1Y7N1Y2N1Y5N3Y9N1Y3N1Y2N3Y1N15Y4N21Y4N4Y3N1Y8N2Y2N2Y22N1Y7N1Y2N1Y5N3Y8N2Y2N2Y2N9Y2N4Y2N1",
     "Y5N13Y1N16Y2N1Y6N3Y3N1Y4N3Y2N1Y1N1Y2N3Y2N3Y3N3Y12N4Y5N3Y3N1Y3N3Y1N6Y1N40Y13N1Y3N1Y23N1Y16",
     "N3Y8N1Y3N1Y3N8Y2N1Y3N2Y1N2Y4N28Y4N1Y8N1Y3N1Y23N1Y10N1Y5N3Y8N1Y3N1Y3N8Y2N6Y2N1Y4N13Y3N12Y13",
     "N1Y3N1Y41N2Y8N1Y3N1Y3N1Y1N5Y4N7Y5N22Y6N1Y3N1Y18N3Y24N1Y9N1Y1N2Y7N8Y6N1Y1N1Y8N18Y2N13Y58N5",
     "Y7N6Y1N51Y2N1Y1N1Y5N1Y24N1Y1N1Y19N1Y3N2Y5N1Y1N6Y1N14Y4N32Y1N63Y8N1Y36N4Y19N4Y16N1Y36N67Y55",
     "N1Y1N2Y5N16Y64N10Y4N2Y38N1Y1N5Y1N2Y43N1Y333N1Y4N2Y7N1Y1N1Y4N2Y41N1Y4N2Y33N1Y4N2Y7N1Y1N1Y4",
     "N2Y15N1Y57N1Y4N2Y67N37Y16N16Y86N2Y6N3Y620N2Y17N1Y26N5Y75N3Y11N7Y20N11Y21N12Y20N12Y13N1Y3N1",
     "Y2N12Y52N2Y19N14Y1N4Y1N67Y89N7Y43N5Y70N10Y31N1Y12N4Y9N23Y30N2Y5N11Y44N4Y26N54Y28N4Y63N2Y20",
     "N50Y1N23Y2N11Y3N49Y52N1Y15N1Y8N51Y42N2Y4N10Y44N1Y11N14Y55N22Y3N10Y36N2Y9N7Y43N2Y3N41Y4N1Y6",
     "N1Y2N3Y1N5Y192N39Y14N11Y278N2Y6N2Y38N2Y6N2Y8N1Y1N1Y1N1Y1N1Y31N2Y53N1Y7N1Y1N3Y3N1Y7N3Y4N2Y6",
     "N4Y13N5Y3N1Y7N116Y1N13Y1N16Y13N101Y1N4Y1N2Y10N1Y1N3Y5N6Y1N1Y1N1Y1N1Y4N1Y11N2Y4N5Y5N4Y1N17",
     "Y41N813Y52N1814Y229N6Y4N3Y2N12Y38N1Y1N5Y1N2Y56N7Y1N16Y23N9Y7N1Y7N1Y7N1Y7N1Y7N1Y7N1Y7N1Y7N1",
     "Y32N47Y1N469Y3N25Y9N7Y5N2Y5N4Y86N6Y3N1Y90N1Y4N5Y43N1Y94N17Y32N48Y16N512Y6592N64Y22157N67",
     "Y46N2Y269N3Y16N10Y2N20Y47N5Y8N3Y113N39Y9N2Y103N2Y64N5Y2N1Y1N1Y5N24Y20N1Y33N24Y52N12Y68N1Y1",
     "N44Y6N3Y1N1Y3N10Y33N5Y35N13Y29N3Y51N1Y12N15Y1N16Y16N10Y5N1Y55N9Y14N18Y23N3Y69N1Y1N1Y1N24Y3",
     "N2Y16N2Y4N11Y6N2Y6N2Y6N9Y7N1Y7N1Y43N1Y14N6Y123N21Y11172N12Y23N4Y49N8452Y366N2Y106N38Y7N12",
     "Y5N5Y12N1Y13N1Y5N1Y1N1Y2N1Y2N1Y108N33Y363N18Y64N2Y54N40Y12N116Y5N1Y135N36Y26N6Y26N11Y89N3",
     "Y6N2Y6N2Y6N2Y3N35Y12N1Y26N1Y19N1Y2N1Y15N2Y14N34Y123N69Y53N267Y29N3Y49N47Y32N13Y30N5Y43N5",
     "Y30N2Y36N4Y8N1Y5N42Y158N18Y36N4Y36N4Y40N8Y52N12Y11N1Y15N1Y7N1Y2N1Y11N1Y15N1Y7N1Y2N67Y311N9",
     "Y22N10Y8N24Y6N1Y42N1Y9N69Y6N2Y1N1Y44N1Y2N3Y1N2Y23N10Y23N9Y31N65Y19N1Y2N10Y22N10Y26N70Y56N6",
     "Y2N64Y4N1Y2N5Y8N1Y3N1Y29N42Y29N3Y29N35Y8N1Y28N27Y54N10Y22N10Y19N13Y18N110Y73N55Y51N13Y51",
     "N13Y40N344Y42N1Y2N3Y2N78Y29N10Y1N8Y22N42Y18N46Y21N27Y23N9Y70N43Y5N10Y57N9Y1N13Y25N23Y51N17",
     "Y4N8Y35N3Y1N9Y64N1Y4N9Y2N10Y1N1Y1N35Y18N1Y34N2Y1N6Y4N62Y7N1Y1N1Y4N1Y15N1Y10N7Y57N23Y4N1Y8",
     "N2Y2N2Y22N1Y7N1Y2N1Y5N3Y8N2Y2N2Y2N3Y1N6Y1N5Y7N156Y66N1Y3N1Y4N20Y3N30Y66N2Y2N1Y1N184Y54N2Y7",
     "N25Y6N34Y63N1Y1N3Y1N59Y54N2Y1N71Y27N2Y14N21Y7N185Y57N103Y64N31Y8N2Y1N2Y8N1Y2N1Y30N1Y2N2Y2",
     "N2Y4N93Y8N2Y46N2Y6N1Y1N1Y2N27Y51N2Y10N17Y72N5Y1N18Y73N263Y9N1Y45N1Y7N1Y1N49Y30N2Y22N1Y14",
     "N73Y7N1Y2N1Y44N3Y1N1Y2N1Y3N1Y1N2Y2N24Y6N1Y2N1Y37N1Y2N1Y4N1Y1N327Y23N9Y17N1Y41N3Y3N111Y1N79",
     "Y922N102Y111N17Y196N2636Y97N15Y1072N17Y6N4025Y583N8633Y569N7Y31N17Y79N17Y30N18Y48N16Y4N31",
     "Y21N5Y19N688Y64N128Y75N4Y57N7Y17N64Y2N1Y1N12Y2N14Y6136N8Y1238N42Y9N8935Y4N1Y7N1Y2N1Y291N15",
     "Y1N29Y3N2Y1N14Y4N8Y396N2308Y107N5Y13N3Y9N7Y10N4Y1N5985Y85N1Y71N1Y2N2Y1N2Y2N2Y4N1Y12N1Y1N1",
     "Y7N1Y65N1Y4N2Y8N1Y7N1Y28N1Y4N1Y5N1Y1N3Y7N1Y340N2Y25N1Y25N1Y31N1Y25N1Y31N1Y25N1Y31N1Y25N1",
     "Y31N1Y25N1Y8N1844Y31N6Y6N213Y7N1Y17N2Y7N1Y2N1Y5N5Y62N33Y1N112Y45N10Y7N16Y1N321Y30N18Y44",
     "N484Y28N756Y7N1Y4N1Y2N1Y15N1Y197N59Y68N3Y1N3Y1N1204Y4N1Y27N1Y2N1Y1N2Y1N1Y10N1Y4N1Y1N1Y1N6",
     "Y1N4Y1N1Y1N1Y1N1Y3N1Y2N1Y1N2Y1N1Y1N1Y1N1Y1N1Y1N1Y2N1Y1N2Y4N1Y7N1Y4N1Y4N1Y1N1Y10N1Y17N5Y3N1",
     "Y5N1Y17N628Y26N6Y26N6Y26N3702Y42720N32Y4154N6Y222N2Y5762N14Y7473N3103Y542N1506Y4939N5Y4192"]),
  (["bidic", "bidicontrol"],
    ["N1564Y1N6641Y2N26Y5N55Y4"]),
  (["bidim", "bidimirrored"],
    ["N40Y2N18Y1N1Y1N28Y1N1Y1N29Y1N1Y1N45Y1N15Y1N3710Y4N1885Y2N2460Y2N10Y2N54Y2N14Y2N177Y1N192Y4",
     "N3Y6N3Y1N3Y2N3Y4N1Y4N1Y1N1Y1N4Y9N5Y1N1Y18N5Y4N9Y2N1Y1N1Y8N2Y31N2Y4N5Y1N9Y2N2Y19N5Y2N9Y5N2",
     "Y2N4Y24N2Y16N8Y4N20Y2N7Y2N1085Y14N74Y1N2Y4N1Y2N1Y3N5Y4N5Y3N3Y14N403Y22N2Y6N1Y14N8Y1N7Y6N3",
     "Y1N4Y5N1Y2N2Y5N4Y1N1Y3N2Y2N10Y6N2Y2N12Y19N1Y4N2Y1N1Y1N2Y1N1Y4N5Y2N6Y3N24Y2N11Y2N4Y4N1Y2N2",
     "Y2N4Y43N2Y8N1Y40N5Y1N1Y1N3Y5N5Y3N4Y1N3Y5N1Y1N256Y1N515Y4N3Y2N1Y2N14Y2N2Y10N43Y8N427Y10N2Y8",
     "N52797Y6N5Y2N162Y2N18Y1N1Y1N28Y1N1Y1N29Y1N1Y1N1Y2N1Y2N55159Y1N57Y1N57Y1N57Y1N57Y1"]),
  (["ci", "caseignorable"],
    ["N39Y1N6Y1N11Y1N35Y1N1Y1N71Y1N4Y1N1Y1N4Y1N2Y2N503Y192N4Y2N4Y1N9Y2N1Y1N251Y7N207Y1N5Y1N49Y45",
     "N1Y1N1Y2N1Y2N1Y1N44Y1N11Y6N10Y11N1Y1N35Y1N10Y21N16Y1N101Y8N1Y10N1Y4N33Y1N1Y1N30Y27N91Y11",
     "N58Y11N4Y1N2Y1N24Y24N43Y3N44Y1N7Y2N6Y8N41Y58N55Y1N1Y1N4Y8N4Y1N3Y7N10Y2N13Y1N15Y1N58Y1N4Y4",
     "N8Y1N20Y2N26Y1N2Y2N57Y1N4Y2N4Y2N2Y3N3Y1N30Y2N3Y1N11Y2N57Y1N4Y5N1Y2N4Y1N20Y2N22Y6N1Y1N58Y1",
     "N2Y1N1Y4N8Y1N7Y2N11Y2N30Y1N61Y1N12Y1N50Y1N3Y1N55Y1N1Y3N5Y3N1Y4N7Y2N11Y2N29Y1N58Y1N2Y1N6Y1",
     "N5Y2N20Y2N28Y2N57Y2N4Y4N8Y1N20Y2N29Y1N72Y1N7Y3N1Y1N90Y1N2Y7N11Y9N98Y1N2Y9N9Y1N1Y7N73Y2N27",
     "Y1N1Y1N1Y1N55Y14N1Y5N1Y2N5Y11N1Y36N9Y1N102Y4N1Y6N1Y2N2Y2N25Y2N4Y3N16Y4N13Y1N2Y2N6Y1N15Y1",
     "N94Y1N608Y3N946Y3N29Y2N30Y2N30Y2N64Y2N1Y7N8Y1N2Y11N3Y1N5Y1N45Y5N51Y1N65Y2N34Y1N118Y3N4Y2N9",
     "Y1N6Y3N219Y2N2Y1N58Y1N1Y7N1Y1N1Y1N2Y8N6Y10N2Y1N39Y1N8Y31N49Y4N48Y1N1Y5N1Y1N5Y1N40Y9N12Y2",
     "N32Y4N2Y2N1Y3N56Y1N1Y2N3Y1N1Y3N58Y8N2Y2N64Y6N82Y3N1Y13N1Y7N4Y1N6Y1N3Y2N50Y63N13Y1N34Y101",
     "N445Y1N1Y3N11Y3N13Y3N13Y3N13Y2N12Y5N8Y2N10Y1N2Y1N2Y5N49Y5N1Y10N1Y1N13Y1N16Y13N51Y33N2955Y2",
     "N113Y3N125Y1N15Y1N96Y32N47Y1N469Y1N36Y4N3Y5N5Y1N93Y6N93Y3N28438Y1N1250Y6N270Y1N98Y4N1Y10N1",
     "Y1N28Y4N80Y2N14Y34N78Y1N23Y3N103Y3N3Y2N8Y1N3Y1N4Y1N25Y2N5Y1N151Y2N26Y18N13Y1N38Y8N25Y11N46",
     "Y3N48Y1N2Y4N2Y2N17Y1N21Y2N66Y6N2Y2N2Y2N12Y1N8Y1N35Y1N11Y1N51Y1N1Y3N2Y2N5Y2N1Y1N27Y1N14Y2N5",
     "Y2N1Y1N100Y5N9Y3N121Y1N2Y1N4Y1N20272Y1N147Y17N573Y16N3Y1N12Y16N34Y1N2Y1N169Y1N7Y1N6Y1N11Y1",
     "N35Y1N1Y1N47Y1N45Y2N67Y1N21Y3N513Y1N226Y1N149Y5N1029Y6N1Y42N1Y9N582Y3N1Y2N5Y4N40Y3N4Y1N165",
     "Y2N573Y4N387Y2N80Y3N70Y11N49Y4N123Y1N54Y15N41Y1N2Y2N10Y3N49Y4N2Y2N2Y1N4Y1N10Y1N50Y3N36Y5N1",
     "Y8N62Y1N12Y2N52Y9N10Y4N2Y1N95Y3N2Y1N1Y2N6Y1N2Y1N157Y1N3Y8N21Y2N57Y2N3Y1N37Y7N3Y5N195Y8N2Y3",
     "N1Y1N23Y1N84Y6N1Y1N4Y2N1Y2N238Y4N6Y2N1Y2N27Y2N85Y8N2Y1N1Y2N106Y1N1Y1N2Y6N1Y1N101Y3N2Y4N1Y5",
     "N259Y9N1Y2N256Y2N1Y1N4Y1N144Y4N2Y2N4Y1N32Y10N40Y6N2Y4N8Y1N9Y6N2Y3N46Y13N1Y2N406Y7N1Y6N1Y1",
     "N82Y22N2Y7N1Y2N1Y2N122Y6N3Y1N1Y2N1Y7N1Y1N72Y2N3Y1N1Y1N347Y2N11Y2N52Y5N5Y1N1Y1N5357Y17N6Y15",
     "N13978Y5N59Y7N9Y4N1035Y1N63Y17N64Y2N1Y2N16395Y4N1Y7N1Y2N3230Y2N1Y4N4700Y46N2Y23N544Y3N9Y16",
     "N2Y7N30Y4N148Y3N1979Y55N4Y50N8Y1N14Y1N22Y5N1Y15N1360Y7N1Y17N2Y7N1Y2N1Y5N5Y62N33Y1N160Y14",
     "N368Y1N61Y4N507Y5N992Y7N109Y8N2735Y5N789505Y1N30Y96N128Y240"]),
  (["cwcf", "changeswhencasefolded"],
    ["N65Y26N90Y1N10Y23N1Y8N32Y1N1Y1N1Y1N1Y1N1Y1N1Y1N1Y1N1Y1N1Y1N1Y1N1Y1N1Y1N1Y1N1Y1N1Y1N1Y1N1Y1",
     "N1Y1N1Y1N1Y1N1Y1N1Y1N1Y1N1Y1N1Y1N1Y1N1Y1N1Y1N2Y1N1Y1N1Y1N1Y1N1Y1N1Y1N1Y1N1Y1N1Y2N1Y1N1Y1N1",
     "Y1N1Y1N1Y1N1Y1N1Y1N1Y1N1Y1N1Y1N1Y1N1Y1N1Y1N1Y1N1Y1N1Y1N1Y1N1Y1N1Y1N1Y1N1Y1N1Y1N1Y2N1Y1N1Y1",
     "N1Y1N1Y2N1Y1N1Y2N1Y3N2Y4N1Y2N1Y3N3Y2N1Y2N1Y1N1Y1N1Y2N1Y1N2Y1N1Y2N1Y3N1Y1N1Y2N3Y1N7Y2N1Y2N1",
     "Y2N1Y1N1Y1N1Y1N1Y1N1Y1N1Y1N1Y1N1Y1N2Y1N1Y1N1Y1N1Y1N1Y1N1Y1N1Y1N1Y1N1Y1N2Y2N1Y1N1Y3N1Y1N1Y1",
     "N1Y1N1Y1N1Y1N1Y1N1Y1N1Y1N1Y1N1Y1N1Y1N1Y1N1Y1N1Y1N1Y1N1Y1N1Y1N1Y1N1Y1N1Y1N1Y1N1Y1N1Y1N1Y1N1",
     "Y1N1Y1N1Y1N1Y1N1Y1N7Y2N1Y2N2Y1N1Y4N1Y1N1Y1N1Y1N1Y1N246Y1N42Y1N1Y1N3Y1N8Y1N6Y1N1Y3N1Y1N1Y2",
     "N1Y17N1Y9N22Y1N12Y3N3Y2N1Y1N1Y1N1Y1N1Y1N1Y1N1Y1N1Y1N1Y1N1Y1N1Y1N1Y1N1Y1N1Y2N2Y2N1Y1N1Y2N2",
     "Y51N48Y1N1Y1N1Y1N1Y1N1Y1N1Y1N1Y1N1Y1N1Y1N1Y1N1Y1N1Y1N1Y1N1Y1N1Y1N1Y1N1Y1N9Y1N1Y1N1Y1N1Y1N1",
     "Y1N1Y1N1Y1N1Y1N1Y1N1Y1N1Y1N1Y1N1Y1N1Y1N1Y1N1Y1N1Y1N1Y1N1Y1N1Y1N1Y1N1Y1N1Y1N1Y1N1Y1N1Y1N1Y1",
     "N1Y2N1Y1N1Y1N1Y1N1Y1N1Y1N1Y1N2Y1N1Y1N1Y1N1Y1N1Y1N1Y1N1Y1N1Y1N1Y1N1Y1N1Y1N1Y1N1Y1N1Y1N1Y1N1",
     "Y1N1Y1N1Y1N1Y1N1Y1N1Y1N1Y1N1Y1N1Y1N1Y1N1Y1N1Y1N1Y1N1Y1N1Y1N1Y1N1Y1N1Y1N1Y1N1Y1N1Y1N1Y1N1Y1",
     "N1Y1N1Y1N1Y1N1Y1N1Y1N1Y1N1Y1N1Y1N1Y1N1Y1N2Y38N48Y1N2840Y38N1Y1N5Y1N810Y6N2178Y9N7Y43N2Y3",
     "N320Y1N1Y1N1Y1N1Y1N1Y1N1Y1N1Y1N1Y1N1Y1N1Y1N1Y1N1Y1N1Y1N1Y1N1Y1N1Y1N1Y1N1Y1N1Y1N1Y1N1Y1N1Y1",
     "N1Y1N1Y1N1Y1N1Y1N1Y1N1Y1N1Y1N1Y1N1Y1N1Y1N1Y1N1Y1N1Y1N1Y1N1Y1N1Y1N1Y1N1Y1N1Y1N1Y1N1Y1N1Y1N1",
     "Y1N1Y1N1Y1N1Y1N1Y1N1Y1N1Y1N1Y1N1Y1N1Y1N1Y1N1Y1N1Y1N1Y1N1Y1N1Y1N1Y1N1Y1N1Y1N1Y1N1Y1N1Y1N1Y1",
     "N1Y1N1Y1N1Y1N1Y1N1Y1N1Y1N1Y1N1Y1N5Y2N2Y1N1Y1N1Y1N1Y1N1Y1N1Y1N1Y1N1Y1N1Y1N1Y1N1Y1N1Y1N1Y1N1",
     "Y1N1Y1N1Y1N1Y1N1Y1N1Y1N1Y1N1Y1N1Y1N1Y1N1Y1N1Y1N1Y1N1Y1N1Y1N1Y1N1Y1N1Y1N1Y1N1Y1N1Y1N1Y1N1Y1",
     "N1Y1N1Y1N1Y1N1Y1N1Y1N1Y1N1Y1N1Y1N1Y1N1Y1N1Y1N1Y1N1Y1N9Y8N8Y6N10Y8N8Y8N8Y6N11Y1N1Y1N1Y1N1Y1",
     "N8Y8N16Y48N2Y3N2Y6N5Y3N2Y6N11Y4N12Y5N5Y3N2Y6N297Y1N3Y2N6Y1N45Y16N19Y1N818Y26N1840Y48N48Y1",
     "N1Y3N2Y1N1Y1N1Y1N1Y4N1Y1N2Y1N8Y3N1Y1N1Y1N1Y1N1Y1N1Y1N1Y1N1Y1N1Y1N1Y1N1Y1N1Y1N1Y1N1Y1N1Y1N1",
     "Y1N1Y1N1Y1N1Y1N1Y1N1Y1N1Y1N1Y1N1Y1N1Y1N1Y1N1Y1N1Y1N1Y1N1Y1N1Y1N1Y1N1Y1N1Y1N1Y1N1Y1N1Y1N1Y1",
     "N1Y1N1Y1N1Y1N1Y1N1Y1N1Y1N1Y1N1Y1N1Y1N1Y1N1Y1N1Y1N8Y1N1Y1N4Y1N31053Y1N1Y1N1Y1N1Y1N1Y1N1Y1N1",
     "Y1N1Y1N1Y1N1Y1N1Y1N1Y1N1Y1N1Y1N1Y1N1Y1N1Y1N1Y1N1Y1N1Y1N1Y1N1Y1N1Y1N19Y1N1Y1N1Y1N1Y1N1Y1N1",
     "Y1N1Y1N1Y1N1Y1N1Y1N1Y1N1Y1N1Y1N1Y1N135Y1N1Y1N1Y1N1Y1N1Y1N1Y1N1Y1N3Y1N1Y1N1Y1N1Y1N1Y1N1Y1N1",
     "Y1N1Y1N1Y1N1Y1N1Y1N1Y1N1Y1N1Y1N1Y1N1Y1N1Y1N1Y1N1Y1N1Y1N1Y1N1Y1N1Y1N1Y1N1Y1N1Y1N1Y1N1Y1N1Y1",
     "N1Y1N1Y1N10Y1N1Y1N1Y2N1Y1N1Y1N1Y1N1Y1N4Y1N1Y1N2Y1N1Y1N3Y1N1Y1N1Y1N1Y1N1Y1N1Y1N1Y1N1Y1N1Y1",
     "N1Y1N1Y5N1Y5N1Y1N1Y1N1Y1N1Y1N1Y1N1Y1N1Y1N1Y4N1Y1N6Y1N5Y1N1Y1N28Y1N890Y80N20288Y7N12Y5N1033",
     "Y26N1221Y40N136Y36N156Y11N1Y15N1Y7N1Y2N1770Y51N3053Y32N21888Y32N31392Y34"]),
  (["cwcm", "changeswhencasemapped"],
    ["N65Y26N6Y26N58Y1N10Y23N1Y31N1Y64N1Y84N1Y13N1Y14N2Y14N2Y2N1Y1N4Y93N1Y18N6Y27N1Y2N1Y1N1Y2N3",
     "Y2N1Y1N1Y2N1Y5N2Y1N1Y2N2Y1N7Y1N2Y1N1Y2N3Y6N5Y1N10Y2N166Y1N42Y4N2Y2N3Y3N1Y1N6Y1N1Y3N1Y1N1",
     "Y20N1Y47N3Y33N1Y5N1Y133N8Y166N1Y38N10Y39N2840Y38N1Y1N5Y1N2Y43N2Y3N672Y86N2Y6N2178Y9N7Y43N2",
     "Y3N185Y1N3Y1N16Y1N113Y156N2Y1N1Y118N2Y6N2Y38N2Y6N2Y8N1Y1N1Y1N1Y1N1Y31N2Y53N1Y7N1Y1N3Y3N1Y7",
     "N3Y4N2Y6N4Y13N5Y3N1Y7N297Y1N3Y2N6Y1N27Y1N17Y32N3Y2N817Y52N1814Y113N1Y2N1Y2N7Y102N7Y4N3Y2",
     "N12Y38N1Y1N5Y1N30994Y46N18Y28N134Y14N2Y62N9Y15N3Y3N2Y5N1Y25N1Y27N5Y2N4Y4N27Y2N860Y1N28Y80",
     "N20288Y7N12Y5N1033Y26N6Y26N1189Y80N96Y36N4Y36N116Y11N1Y15N1Y7N1Y2N1Y11N1Y15N1Y7N1Y2N1731",
     "Y51N13Y51N2989Y64N21856Y64N31360Y68"]),
  (["cwl", "changeswhenlowercased"],
    ["N65Y26N101Y23N1Y7N33Y1N1Y1N1Y1N1Y1N1Y1N1Y1N1Y1N1Y1N1Y1N1Y1N1Y1N1Y1N1Y1N1Y1N1Y1N1Y1N1Y1N1Y1",
     "N1Y1N1Y1N1Y1N1Y1N1Y1N1Y1N1Y1N1Y1N1Y1N1Y1N2Y1N1Y1N1Y1N1Y1N1Y1N1Y1N1Y1N1Y1N2Y1N1Y1N1Y1N1Y1N1",
     "Y1N1Y1N1Y1N1Y1N1Y1N1Y1N1Y1N1Y1N1Y1N1Y1N1Y1N1Y1N1Y1N1Y1N1Y1N1Y1N1Y1N1Y1N1Y1N1Y2N1Y1N1Y1N3Y2",
     "N1Y1N1Y2N1Y3N2Y4N1Y2N1Y3N3Y2N1Y2N1Y1N1Y1N1Y2N1Y1N2Y1N1Y2N1Y3N1Y1N1Y2N3Y1N7Y2N1Y2N1Y2N1Y1N1",
     "Y1N1Y1N1Y1N1Y1N1Y1N1Y1N1Y1N2Y1N1Y1N1Y1N1Y1N1Y1N1Y1N1Y1N1Y1N1Y1N2Y2N1Y1N1Y3N1Y1N1Y1N1Y1N1Y1",
     "N1Y1N1Y1N1Y1N1Y1N1Y1N1Y1N1Y1N1Y1N1Y1N1Y1N1Y1N1Y1N1Y1N1Y1N1Y1N1Y1N1Y1N1Y1N1Y1N1Y1N1Y1N1Y1N1",
     "Y1N1Y1N1Y1N7Y2N1Y2N2Y1N1Y4N1Y1N1Y1N1Y1N1Y1N289Y1N1Y1N3Y1N8Y1N6Y1N1Y3N1Y1N1Y2N1Y17N1Y9N35Y1",
     "N8Y1N1Y1N1Y1N1Y1N1Y1N1Y1N1Y1N1Y1N1Y1N1Y1N1Y1N1Y1N5Y1N2Y1N1Y2N2Y51N48Y1N1Y1N1Y1N1Y1N1Y1N1Y1",
     "N1Y1N1Y1N1Y1N1Y1N1Y1N1Y1N1Y1N1Y1N1Y1N1Y1N1Y1N9Y1N1Y1N1Y1N1Y1N1Y1N1Y1N1Y1N1Y1N1Y1N1Y1N1Y1N1",
     "Y1N1Y1N1Y1N1Y1N1Y1N1Y1N1Y1N1Y1N1Y1N1Y1N1Y1N1Y1N1Y1N1Y1N1Y1N1Y1N1Y2N1Y1N1Y1N1Y1N1Y1N1Y1N1Y1",
     "N2Y1N1Y1N1Y1N1Y1N1Y1N1Y1N1Y1N1Y1N1Y1N1Y1N1Y1N1Y1N1Y1N1Y1N1Y1N1Y1N1Y1N1Y1N1Y1N1Y1N1Y1N1Y1N1",
     "Y1N1Y1N1Y1N1Y1N1Y1N1Y1N1Y1N1Y1N1Y1N1Y1N1Y1N1Y1N1Y1N1Y1N1Y1N1Y1N1Y1N1Y1N1Y1N1Y1N1Y1N1Y1N1Y1",
     "N1Y1N1Y1N1Y1N2Y38N2889Y38N1Y1N5Y1N722Y86N2202Y43N2Y3N320Y1N1Y1N1Y1N1Y1N1Y1N1Y1N1Y1N1Y1N1Y1",
     "N1Y1N1Y1N1Y1N1Y1N1Y1N1Y1N1Y1N1Y1N1Y1N1Y1N1Y1N1Y1N1Y1N1Y1N1Y1N1Y1N1Y1N1Y1N1Y1N1Y1N1Y1N1Y1N1",
     "Y1N1Y1N1Y1N1Y1N1Y1N1Y1N1Y1N1Y1N1Y1N1Y1N1Y1N1Y1N1Y1N1Y1N1Y1N1Y1N1Y1N1Y1N1Y1N1Y1N1Y1N1Y1N1Y1",
     "N1Y1N1Y1N1Y1N1Y1N1Y1N1Y1N1Y1N1Y1N1Y1N1Y1N1Y1N1Y1N1Y1N1Y1N1Y1N1Y1N1Y1N1Y1N1Y1N1Y1N1Y1N9Y1N1",
     "Y1N1Y1N1Y1N1Y1N1Y1N1Y1N1Y1N1Y1N1Y1N1Y1N1Y1N1Y1N1Y1N1Y1N1Y1N1Y1N1Y1N1Y1N1Y1N1Y1N1Y1N1Y1N1Y1",
     "N1Y1N1Y1N1Y1N1Y1N1Y1N1Y1N1Y1N1Y1N1Y1N1Y1N1Y1N1Y1N1Y1N1Y1N1Y1N1Y1N1Y1N1Y1N1Y1N1Y1N1Y1N1Y1N1",
     "Y1N1Y1N1Y1N9Y8N8Y6N10Y8N8Y8N8Y6N11Y1N1Y1N1Y1N1Y1N8Y8N24Y8N8Y8N8Y8N8Y5N11Y5N11Y4N12Y5N11Y5",
     "N297Y1N3Y2N6Y1N45Y16N19Y1N818Y26N1840Y48N48Y1N1Y3N2Y1N1Y1N1Y1N1Y4N1Y1N2Y1N8Y3N1Y1N1Y1N1Y1",
     "N1Y1N1Y1N1Y1N1Y1N1Y1N1Y1N1Y1N1Y1N1Y1N1Y1N1Y1N1Y1N1Y1N1Y1N1Y1N1Y1N1Y1N1Y1N1Y1N1Y1N1Y1N1Y1N1",
     "Y1N1Y1N1Y1N1Y1N1Y1N1Y1N1Y1N1Y1N1Y1N1Y1N1Y1N1Y1N1Y1N1Y1N1Y1N1Y1N1Y1N1Y1N1Y1N1Y1N1Y1N1Y1N1Y1",
     "N1Y1N8Y1N1Y1N4Y1N31053Y1N1Y1N1Y1N1Y1N1Y1N1Y1N1Y1N1Y1N1Y1N1Y1N1Y1N1Y1N1Y1N1Y1N1Y1N1Y1N1Y1N1",
     "Y1N1Y1N1Y1N1Y1N1Y1N1Y1N19Y1N1Y1N1Y1N1Y1N1Y1N1Y1N1Y1N1Y1N1Y1N1Y1N1Y1N1Y1N1Y1N1Y1N135Y1N1Y1",
     "N1Y1N1Y1N1Y1N1Y1N1Y1N3Y1N1Y1N1Y1N1Y1N1Y1N1Y1N1Y1N1Y1N1Y1N1Y1N1Y1N1Y1N1Y1N1Y1N1Y1N1Y1N1Y1N1",
     "Y1N1Y1N1Y1N1Y1N1Y1N1Y1N1Y1N1Y1N1Y1N1Y1N1Y1N1Y1N1Y1N1Y1N10Y1N1Y1N1Y2N1Y1N1Y1N1Y1N1Y1N4Y1N1",
     "Y1N2Y1N1Y1N3Y1N1Y1N1Y1N1Y1N1Y1N1Y1N1Y1N1Y1N1Y1N1Y1N1Y5N1Y5N1Y1N1Y1N1Y1N1Y1N1Y1N1Y1N1Y1N1Y4",
     "N1Y1N6Y1N5Y1N1Y1N28Y1N22315Y26N1221Y40N136Y36N156Y11N1Y15N1Y7N1Y2N1770Y51N3053Y32N21888Y32",
     "N31392Y34"]),
  (["cwt", "changeswhentitlecased"],
    ["N97Y26N58Y1N41Y24N1Y8N1Y1N1Y1N1Y1N1Y1N1Y1N1Y1N1Y1N1Y1N1Y1N1Y1N1Y1N1Y1N1Y1N1Y1N1Y1N1Y1N1Y1",
     "N1Y1N1Y1N1Y1N1Y1N1Y1N1Y1N1Y1N1Y1N1Y1N1Y1N1Y1N2Y1N1Y1N1Y1N1Y1N1Y1N1Y1N1Y1N1Y2N1Y1N1Y1N1Y1N1",
     "Y1N1Y1N1Y1N1Y1N1Y1N1Y1N1Y1N1Y1N1Y1N1Y1N1Y1N1Y1N1Y1N1Y1N1Y1N1Y1N1Y1N1Y1N1Y1N1Y1N2Y1N1Y1N1Y3",
     "N2Y1N1Y1N2Y1N3Y1N5Y1N2Y1N3Y2N3Y1N2Y1N1Y1N1Y1N2Y1N4Y1N2Y1N3Y1N1Y1N2Y1N3Y1N1Y1N4Y1N1Y2N1Y2N1",
     "Y1N1Y1N1Y1N1Y1N1Y1N1Y1N1Y1N1Y1N1Y2N1Y1N1Y1N1Y1N1Y1N1Y1N1Y1N1Y1N1Y1N1Y3N1Y1N1Y1N3Y1N1Y1N1Y1",
     "N1Y1N1Y1N1Y1N1Y1N1Y1N1Y1N1Y1N1Y1N1Y1N1Y1N1Y1N1Y1N1Y1N1Y1N1Y1N1Y1N1Y1N3Y1N1Y1N1Y1N1Y1N1Y1N1",
     "Y1N1Y1N1Y1N1Y1N8Y1N2Y2N1Y1N4Y1N1Y1N1Y1N1Y1N1Y6N1Y2N1Y1N1Y2N3Y2N1Y1N1Y2N1Y5N2Y1N1Y2N2Y1N7Y1",
     "N2Y1N1Y2N3Y6N5Y1N10Y2N166Y1N43Y1N1Y1N3Y1N3Y3N18Y1N27Y35N1Y2N3Y3N1Y1N1Y1N1Y1N1Y1N1Y1N1Y1N1",
     "Y1N1Y1N1Y1N1Y1N1Y1N1Y5N1Y1N2Y1N2Y1N52Y48N1Y1N1Y1N1Y1N1Y1N1Y1N1Y1N1Y1N1Y1N1Y1N1Y1N1Y1N1Y1N1",
     "Y1N1Y1N1Y1N1Y1N1Y1N9Y1N1Y1N1Y1N1Y1N1Y1N1Y1N1Y1N1Y1N1Y1N1Y1N1Y1N1Y1N1Y1N1Y1N1Y1N1Y1N1Y1N1Y1",
     "N1Y1N1Y1N1Y1N1Y1N1Y1N1Y1N1Y1N1Y1N1Y1N2Y1N1Y1N1Y1N1Y1N1Y1N1Y1N1Y2N1Y1N1Y1N1Y1N1Y1N1Y1N1Y1N1",
     "Y1N1Y1N1Y1N1Y1N1Y1N1Y1N1Y1N1Y1N1Y1N1Y1N1Y1N1Y1N1Y1N1Y1N1Y1N1Y1N1Y1N1Y1N1Y1N1Y1N1Y1N1Y1N1Y1",
     "N1Y1N1Y1N1Y1N1Y1N1Y1N1Y1N1Y1N1Y1N1Y1N1Y1N1Y1N1Y1N1Y1N1Y1N1Y1N1Y1N1Y1N1Y1N1Y1N49Y39N3696Y6",
     "N2178Y9N240Y1N3Y1N16Y1N114Y1N1Y1N1Y1N1Y1N1Y1N1Y1N1Y1N1Y1N1Y1N1Y1N1Y1N1Y1N1Y1N1Y1N1Y1N1Y1N1",
     "Y1N1Y1N1Y1N1Y1N1Y1N1Y1N1Y1N1Y1N1Y1N1Y1N1Y1N1Y1N1Y1N1Y1N1Y1N1Y1N1Y1N1Y1N1Y1N1Y1N1Y1N1Y1N1Y1",
     "N1Y1N1Y1N1Y1N1Y1N1Y1N1Y1N1Y1N1Y1N1Y1N1Y1N1Y1N1Y1N1Y1N1Y1N1Y1N1Y1N1Y1N1Y1N1Y1N1Y1N1Y1N1Y1N1",
     "Y1N1Y1N1Y1N1Y1N1Y1N1Y1N1Y1N1Y1N1Y1N1Y1N1Y1N1Y1N1Y1N1Y7N5Y1N1Y1N1Y1N1Y1N1Y1N1Y1N1Y1N1Y1N1Y1",
     "N1Y1N1Y1N1Y1N1Y1N1Y1N1Y1N1Y1N1Y1N1Y1N1Y1N1Y1N1Y1N1Y1N1Y1N1Y1N1Y1N1Y1N1Y1N1Y1N1Y1N1Y1N1Y1N1",
     "Y1N1Y1N1Y1N1Y1N1Y1N1Y1N1Y1N1Y1N1Y1N1Y1N1Y1N1Y1N1Y1N1Y1N1Y1N1Y1N1Y9N8Y6N10Y8N8Y8N8Y6N10Y8N8",
     "Y8N8Y14N2Y8N8Y8N8Y8N8Y5N1Y2N6Y1N3Y3N1Y2N8Y4N2Y2N8Y8N10Y3N1Y2N342Y1N33Y16N4Y1N843Y26N1862",
     "Y48N1Y1N3Y2N1Y1N1Y1N1Y1N6Y1N2Y1N10Y1N1Y1N1Y1N1Y1N1Y1N1Y1N1Y1N1Y1N1Y1N1Y1N1Y1N1Y1N1Y1N1Y1N1",
     "Y1N1Y1N1Y1N1Y1N1Y1N1Y1N1Y1N1Y1N1Y1N1Y1N1Y1N1Y1N1Y1N1Y1N1Y1N1Y1N1Y1N1Y1N1Y1N1Y1N1Y1N1Y1N1Y1",
     "N1Y1N1Y1N1Y1N1Y1N1Y1N1Y1N1Y1N1Y1N1Y1N1Y1N1Y1N1Y1N1Y1N8Y1N1Y1N4Y1N12Y38N1Y1N5Y1N30995Y1N1Y1",
     "N1Y1N1Y1N1Y1N1Y1N1Y1N1Y1N1Y1N1Y1N1Y1N1Y1N1Y1N1Y1N1Y1N1Y1N1Y1N1Y1N1Y1N1Y1N1Y1N1Y1N1Y1N19Y1",
     "N1Y1N1Y1N1Y1N1Y1N1Y1N1Y1N1Y1N1Y1N1Y1N1Y1N1Y1N1Y1N1Y1N135Y1N1Y1N1Y1N1Y1N1Y1N1Y1N1Y1N3Y1N1Y1",
     "N1Y1N1Y1N1Y1N1Y1N1Y1N1Y1N1Y1N1Y1N1Y1N1Y1N1Y1N1Y1N1Y1N1Y1N1Y1N1Y1N1Y1N1Y1N1Y1N1Y1N1Y1N1Y1N1",
     "Y1N1Y1N1Y1N1Y1N1Y1N1Y1N1Y1N10Y1N1Y1N2Y1N1Y1N1Y1N1Y1N1Y1N4Y1N4Y1N1Y2N2Y1N1Y1N1Y1N1Y1N1Y1N1",
     "Y1N1Y1N1Y1N1Y1N1Y1N11Y1N1Y1N1Y1N1Y1N1Y1N1Y1N1Y1N1Y1N4Y1N1Y1N6Y1N5Y1N1Y1N28Y1N860Y1N28Y80",
     "N20288Y7N12Y5N1065Y26N1229Y40N136Y36N155Y11N1Y15N1Y7N1Y2N1795Y51N3021Y32N21888Y32N31394Y34"]),
  (["cwu", "changeswhenuppercased"],
    ["N97Y26N58Y1N41Y24N1Y8N1Y1N1Y1N1Y1N1Y1N1Y1N1Y1N1Y1N1Y1N1Y1N1Y1N1Y1N1Y1N1Y1N1Y1N1Y1N1Y1N1Y1",
     "N1Y1N1Y1N1Y1N1Y1N1Y1N1Y1N1Y1N1Y1N1Y1N1Y1N1Y1N2Y1N1Y1N1Y1N1Y1N1Y1N1Y1N1Y1N1Y2N1Y1N1Y1N1Y1N1",
     "Y1N1Y1N1Y1N1Y1N1Y1N1Y1N1Y1N1Y1N1Y1N1Y1N1Y1N1Y1N1Y1N1Y1N1Y1N1Y1N1Y1N1Y1N1Y1N1Y1N2Y1N1Y1N1Y3",
     "N2Y1N1Y1N2Y1N3Y1N5Y1N2Y1N3Y2N3Y1N2Y1N1Y1N1Y1N2Y1N4Y1N2Y1N3Y1N1Y1N2Y1N3Y1N1Y1N5Y2N1Y2N1Y2N1",
     "Y1N1Y1N1Y1N1Y1N1Y1N1Y1N1Y1N1Y2N1Y1N1Y1N1Y1N1Y1N1Y1N1Y1N1Y1N1Y1N1Y2N1Y2N1Y1N3Y1N1Y1N1Y1N1Y1",
     "N1Y1N1Y1N1Y1N1Y1N1Y1N1Y1N1Y1N1Y1N1Y1N1Y1N1Y1N1Y1N1Y1N1Y1N1Y1N1Y1N3Y1N1Y1N1Y1N1Y1N1Y1N1Y1N1",
     "Y1N1Y1N1Y1N8Y1N2Y2N1Y1N4Y1N1Y1N1Y1N1Y1N1Y6N1Y2N1Y1N1Y2N3Y2N1Y1N1Y2N1Y5N2Y1N1Y2N2Y1N7Y1N2Y1",
     "N1Y2N3Y6N5Y1N10Y2N166Y1N43Y1N1Y1N3Y1N3Y3N18Y1N27Y35N1Y2N3Y3N1Y1N1Y1N1Y1N1Y1N1Y1N1Y1N1Y1N1",
     "Y1N1Y1N1Y1N1Y1N1Y5N1Y1N2Y1N2Y1N52Y48N1Y1N1Y1N1Y1N1Y1N1Y1N1Y1N1Y1N1Y1N1Y1N1Y1N1Y1N1Y1N1Y1N1",
     "Y1N1Y1N1Y1N1Y1N9Y1N1Y1N1Y1N1Y1N1Y1N1Y1N1Y1N1Y1N1Y1N1Y1N1Y1N1Y1N1Y1N1Y1N1Y1N1Y1N1Y1N1Y1N1Y1",
     "N1Y1N1Y1N1Y1N1Y1N1Y1N1Y1N1Y1N1Y1N2Y1N1Y1N1Y1N1Y1N1Y1N1Y1N1Y2N1Y1N1Y1N1Y1N1Y1N1Y1N1Y1N1Y1N1",
     "Y1N1Y1N1Y1N1Y1N1Y1N1Y1N1Y1N1Y1N1Y1N1Y1N1Y1N1Y1N1Y1N1Y1N1Y1N1Y1N1Y1N1Y1N1Y1N1Y1N1Y1N1Y1N1Y1",
     "N1Y1N1Y1N1Y1N1Y1N1Y1N1Y1N1Y1N1Y1N1Y1N1Y1N1Y1N1Y1N1Y1N1Y1N1Y1N1Y1N1Y1N1Y1N49Y39N2888Y43N2Y3",
     "N760Y6N2178Y9N240Y1N3Y1N16Y1N114Y1N1Y1N1Y1N1Y1N1Y1N1Y1N1Y1N1Y1N1Y1N1Y1N1Y1N1Y1N1Y1N1Y1N1Y1",
     "N1Y1N1Y1N1Y1N1Y1N1Y1N1Y1N1Y1N1Y1N1Y1N1Y1N1Y1N1Y1N1Y1N1Y1N1Y1N1Y1N1Y1N1Y1N1Y1N1Y1N1Y1N1Y1N1",
     "Y1N1Y1N1Y1N1Y1N1Y1N1Y1N1Y1N1Y1N1Y1N1Y1N1Y1N1Y1N1Y1N1Y1N1Y1N1Y1N1Y1N1Y1N1Y1N1Y1N1Y1N1Y1N1Y1",
     "N1Y1N1Y1N1Y1N1Y1N1Y1N1Y1N1Y1N1Y1N1Y1N1Y1N1Y1N1Y1N1Y1N1Y1N1Y7N5Y1N1Y1N1Y1N1Y1N1Y1N1Y1N1Y1N1",
     "Y1N1Y1N1Y1N1Y1N1Y1N1Y1N1Y1N1Y1N1Y1N1Y1N1Y1N1Y1N1Y1N1Y1N1Y1N1Y1N1Y1N1Y1N1Y1N1Y1N1Y1N1Y1N1Y1",
     "N1Y1N1Y1N1Y1N1Y1N1Y1N1Y1N1Y1N1Y1N1Y1N1Y1N1Y1N1Y1N1Y1N1Y1N1Y1N1Y1N1Y1N1Y9N8Y6N10Y8N8Y8N8Y6",
     "N10Y8N8Y8N8Y14N2Y53N1Y2N4Y1N1Y1N3Y3N1Y2N4Y1N3Y4N2Y2N8Y8N10Y3N1Y2N4Y1N337Y1N33Y16N4Y1N843",
     "Y26N1862Y48N1Y1N3Y2N1Y1N1Y1N1Y1N6Y1N2Y1N10Y1N1Y1N1Y1N1Y1N1Y1N1Y1N1Y1N1Y1N1Y1N1Y1N1Y1N1Y1N1",
     "Y1N1Y1N1Y1N1Y1N1Y1N1Y1N1Y1N1Y1N1Y1N1Y1N1Y1N1Y1N1Y1N1Y1N1Y1N1Y1N1Y1N1Y1N1Y1N1Y1N1Y1N1Y1N1Y1",
     "N1Y1N1Y1N1Y1N1Y1N1Y1N1Y1N1Y1N1Y1N1Y1N1Y1N1Y1N1Y1N1Y1N1Y1N1Y1N8Y1N1Y1N4Y1N12Y38N1Y1N5Y1",
     "N30995Y1N1Y1N1Y1N1Y1N1Y1N1Y1N1Y1N1Y1N1Y1N1Y1N1Y1N1Y1N1Y1N1Y1N1Y1N1Y1N1Y1N1Y1N1Y1N1Y1N1Y1N1",
     "Y1N1Y1N19Y1N1Y1N1Y1N1Y1N1Y1N1Y1N1Y1N1Y1N1Y1N1Y1N1Y1N1Y1N1Y1N1Y1N135Y1N1Y1N1Y1N1Y1N1Y1N1Y1",
     "N1Y1N3Y1N1Y1N1Y1N1Y1N1Y1N1Y1N1Y1N1Y1N1Y1N1Y1N1Y1N1Y1N1Y1N1Y1N1Y1N1Y1N1Y1N1Y1N1Y1N1Y1N1Y1N1",
     "Y1N1Y1N1Y1N1Y1N1Y1N1Y1N1Y1N1Y1N1Y1N1Y1N10Y1N1Y1N2Y1N1Y1N1Y1N1Y1N1Y1N4Y1N4Y1N1Y2N2Y1N1Y1N1",
     "Y1N1Y1N1Y1N1Y1N1Y1N1Y1N1Y1N1Y1N11Y1N1Y1N1Y1N1Y1N1Y1N1Y1N1Y1N1Y1N4Y1N1Y1N6Y1N5Y1N1Y1N28Y1",
     "N860Y1N28Y80N20288Y7N12Y5N1065Y26N1229Y40N136Y36N155Y11N1Y15N1Y7N1Y2N1795Y51N3021Y32N21888",
     "Y32N31394Y34"]),
  (["cased"],
    ["N65Y26N6Y26N47Y1N10Y1N4Y1N5Y23N1Y31N1Y195N1Y4N4Y208N1Y36N7Y2N30Y5N96Y1N42Y4N2Y2N2Y4N1Y1N6",
     "Y1N1Y3N1Y1N1Y20N1Y83N1Y139N8Y166N1Y38N9Y41N2839Y38N1Y1N5Y1N2Y43N1Y4N672Y86N2Y6N2178Y9N7Y43",
     "N2Y3N64Y192N64Y278N2Y6N2Y38N2Y6N2Y8N1Y1N1Y1N1Y1N1Y31N2Y53N1Y7N1Y1N3Y3N1Y7N3Y4N2Y6N4Y13N5Y3",
     "N1Y7N116Y1N13Y1N16Y13N101Y1N4Y1N2Y10N1Y1N3Y5N6Y1N1Y1N1Y1N1Y4N1Y6N4Y1N2Y4N5Y5N4Y1N17Y32N3Y2",
     "N817Y52N1814Y229N6Y4N3Y2N12Y38N1Y1N5Y1N30994Y46N18Y30N132Y102N3Y4N1Y59N5Y2N1Y1N1Y5N24Y5N1",
     "Y3N821Y43N1Y14N6Y80N20288Y7N12Y5N1033Y26N6Y26N1189Y80N96Y36N4Y36N116Y11N1Y15N1Y7N1Y2N1Y11",
     "N1Y15N1Y7N1Y2N451Y1N2Y3N1Y42N1Y9N1221Y51N13Y51N2989Y64N21856Y64N25984Y85N1Y71N1Y2N2Y1N2Y2",
     "N2Y4N1Y12N1Y1N1Y7N1Y65N1Y4N2Y8N1Y7N1Y28N1Y4N1Y5N1Y1N3Y7N1Y340N2Y25N1Y25N1Y31N1Y25N1Y31N1",
     "Y25N1Y31N1Y25N1Y31N1Y25N1Y8N1844Y10N1Y20N6Y6N261Y62N2194Y68N2028Y26N6Y26N6Y26"]),
  (["di", "defaultignorablecodepoint"],
    ["N173Y1N673Y1N716Y1N2882Y2N1619Y2N85Y5N2043Y5N26Y5N49Y16N4340Y1N52379Y16N239Y1N160Y1N79Y9",
     "N48295Y4N5327Y8N798341Y4096"]),
  (["dash"],
    ["N45Y1N1372Y1N51Y1N3649Y1N1029Y1N2057Y6N61Y1N39Y1N15Y1N390Y1N3076Y1N2Y1N31Y2N4Y1N28Y1N446Y1",
     "N19Y1N111Y1N52624Y2N37Y1N10Y1N169Y1N3999Y1"]),
  (["dep", "deprecated"],
    ["N329Y1N1321Y1N2307Y1N1Y1N2089Y2N2245Y6N697Y2N908502Y1"]),
  (["dia", "diacritic"],
    ["N94Y1N1Y1N71Y1N6Y1N4Y1N2Y2N503Y159N1Y8N5Y6N17Y2N4Y1N9Y2N253Y5N209Y1N55Y17N1Y27N1Y1N1Y2N1Y1",
     "N134Y8N4Y2N134Y2N4Y2N3Y3N67Y27N91Y11N58Y11N34Y2N126Y8N41Y10N16Y28N61Y1N16Y1N3Y4N28Y1N74Y1",
     "N16Y1N110Y1N16Y1N110Y1N16Y1N47Y3N60Y1N16Y1N7Y1N119Y1N110Y1N16Y1N110Y1N16Y1N109Y2N16Y1N124",
     "Y1N124Y6N1Y1N107Y1N13Y5N75Y2N27Y1N1Y1N1Y1N4Y2N66Y3N1Y2N62Y1N112Y1N1Y2N40Y2N4Y5N25Y7N1Y1N10",
     "Y2N705Y3N948Y2N179Y11N9Y1N347Y3N313Y8N2Y1N48Y15N2Y11N104Y1N15Y1N38Y9N54Y2N138Y2N64Y6N82Y25",
     "N4Y1N6Y1N2Y3N50Y63N89Y12N37Y11N445Y1N1Y3N11Y3N13Y3N13Y3N13Y2N3312Y3N317Y1N506Y6N105Y4N95Y1",
     "N30066Y1N12Y2N1Y1N28Y2N82Y2N14Y34N102Y3N109Y2N202Y1N27Y18N57Y4N36Y1N95Y1N12Y1N36Y1N149Y3",
     "N65Y4N51Y1N100Y5N9Y3N128Y2N20272Y1N769Y16N270Y1N1Y1N47Y1N45Y2N67Y1N764Y1N1183Y6N1Y42N1Y9",
     "N810Y2N571Y6N469Y3N70Y11N49Y4N192Y1N41Y1N72Y2N120Y2N62Y1N76Y1N9Y3N104Y2N178Y2N81Y1N16Y1N24",
     "Y7N3Y5N205Y1N3Y1N123Y2N251Y2N126Y1N118Y2N115Y1N269Y2N258Y2N4Y1N156Y1N83Y1N18Y1N81Y1N421Y1",
     "N258Y1N1Y2N81Y1N5807Y15N13978Y5N59Y7N1112Y17N80Y2N16382Y4N1Y7N1Y2N7937Y46N2Y23N544Y3N3Y6N8",
     "Y8N2Y7N30Y4N3714Y62N194Y7N375Y1N61Y4N1504Y7N109Y3N1Y3"]),
  (["ebase", "emojimodifierbase"],
    ["N9757Y1N219Y1N16Y4N117879Y1N60Y3N2Y1N2Y3N117Y2N2Y11N21Y19N3Y1N4Y3N1Y3N7Y1N1Y1N24Y1N201Y2N4",
     "Y1N21Y1N4Y2N174Y3N3Y5N83Y1N16Y3N9Y1N11Y1N575Y1N2Y1N8Y8N6Y1N9Y10N2Y3N56Y1N61Y2N1Y2N1Y1N17Y3",
     "N1Y13N229Y3N42Y9"]),
  (["ecomp", "emojicomponent"],
    ["N35Y1N6Y1N5Y10N8147Y1N213Y1N56619Y1N62422Y26N507Y5N1456Y4N788076Y96"]),
  (["emod", "emojimodifier"],
    ["N127995Y5"]),
  (["epres", "emojipresentation"],
    ["N8986Y2N205Y4N3Y1N2Y1N521Y2N21Y2N50Y12N43Y1N19Y1N13Y1N8Y2N17Y2N5Y2N8Y1N5Y1N21Y1N7Y2N1Y1N4",
     "Y1N2Y1N7Y1N4Y2N28Y1N35Y1N1Y1N4Y3N1Y1N61Y3N24Y1N14Y1N859Y2N51Y1N4Y1N115886Y1N202Y1N190Y1N2",
     "Y10N75Y26N1Y1N24Y1N20Y1N2Y5N1Y3N21Y2N174Y33N12Y9N1Y70N1Y22N12Y43N4Y5N12Y17N3Y1N3Y71N1Y1N1",
     "Y187N2Y63N13Y4N1Y24N18Y1N26Y2N13Y1N86Y85N48Y70N6Y1N3Y3N2Y3N4Y4N11Y2N7Y9N227Y12N4Y1N283Y47",
     "N1Y10N1Y185N112Y13N3Y9N7Y46N1Y7N8Y14N4Y9N7Y9"]),
  (["emoji"],
    ["N35Y1N6Y1N5Y10N111Y1N4Y1N8077Y1N12Y1N216Y1N22Y1N90Y6N15Y2N367Y2N12Y1N166Y1N25Y11N4Y3N199Y1",
     "N231Y2N10Y1N9Y1N58Y4N1Y5N9Y1N2Y1N2Y2N2Y1N4Y1N2Y1N1Y2N2Y1N3Y1N3Y2N8Y3N5Y1N1Y1N5Y12N11Y2N2Y1",
     "N1Y2N1Y1N18Y1N2Y2N18Y6N1Y1N1Y2N3Y2N5Y1N2Y2N4Y2N11Y2N5Y2N2Y1N5Y2N1Y1N1Y2N20Y2N5Y6N1Y4N2Y1N4",
     "Y1N2Y1N2Y6N1Y1N2Y1N1Y1N1Y1N6Y1N3Y1N6Y1N10Y2N15Y1N2Y1N4Y1N1Y1N4Y3N1Y1N11Y2N48Y3N9Y1N14Y1N14",
     "Y1N372Y2N463Y3N19Y2N51Y1N4Y1N1242Y1N12Y1N601Y1N1Y1N114026Y1N202Y1N160Y2N12Y2N14Y1N2Y10N75",
     "Y26N1Y2N23Y1N20Y1N2Y9N21Y2N174Y34N2Y112N2Y2N1Y3N2Y83N2Y3N1Y263N1Y63N11Y6N1Y24N7Y2N2Y8N12Y1",
     "N2Y4N2Y1N4Y2N13Y2N2Y1N8Y2N9Y1N5Y3N12Y3N8Y3N2Y1N1Y1N4Y1N6Y1N3Y1N6Y86N48Y70N5Y8N2Y3N4Y10N3Y1",
     "N1Y2N3Y1N2Y10N227Y12N4Y1N283Y47N1Y10N1Y185N112Y13N3Y9N7Y46N1Y7N8Y14N4Y9N7Y9"]),
  (["ext", "extender"],
    ["N183Y1N536Y2N878Y1N441Y1N858Y1N752Y1N127Y1N2371Y1N56Y1N611Y1N398Y1N68Y1N5001Y1N43Y5N103Y2",
     "N93Y3N28438Y1N1526Y1N962Y1N22Y1N137Y1N108Y1N21Y2N21627Y1N2064Y2N3034Y1N616Y3N1231Y1N20649",
     "Y2N1180Y2N1Y1N29016Y2N2054Y3"]),
  (["extpict", "extendedpictographic"],
    ["N169Y1N4Y1N8077Y1N12Y1N216Y1N22Y1N90Y6N15Y2N367Y2N12Y1N95Y1N70Y1N25Y11N4Y3N199Y1N231Y2N10",
     "Y1N9Y1N58Y4N1Y6N1Y12N1Y114N10Y118N2Y11N1Y1N1Y1N6Y1N3Y1N6Y1N10Y2N15Y1N2Y1N4Y1N1Y1N4Y3N1Y1",
     "N11Y5N45Y3N9Y1N14Y1N14Y1N372Y2N463Y3N19Y2N51Y1N4Y1N1242Y1N12Y1N601Y1N1Y1N114022Y256N13Y3",
     "N31Y1N60Y6N12Y2N14Y1N2Y10N18Y57N27Y15N10Y1N20Y1N2Y9N1Y4N9Y434N5Y318N8Y266N48Y128N116Y12N85",
     "Y43N12Y4N56Y8N10Y6N40Y8N30Y82N12Y47N1Y10N1Y441N256Y1022"]),
  (["grbase", "graphemebase"],
    ["N32Y95N33Y13N1Y594N112Y8N2Y6N4Y7N1Y1N1Y20N1Y224N7Y166N1Y38N2Y50N2Y3N46Y1N1Y1N2Y1N2Y1N9Y27",
     "N4Y6N17Y10N11Y1N1Y46N21Y16N1Y101N8Y1N6Y2N2Y1N4Y32N2Y1N1Y30N29Y89N11Y1N14Y43N9Y7N3Y24N4Y1N9",
     "Y1N3Y1N7Y15N1Y25N5Y1N1Y11N5Y31N17Y42N57Y55N1Y1N1Y4N8Y4N1Y3N7Y10N2Y29N1Y2N1Y8N2Y2N2Y22N1Y7",
     "N1Y1N3Y4N3Y1N1Y2N6Y2N2Y2N1Y1N13Y2N1Y3N4Y24N5Y1N1Y6N4Y2N2Y22N1Y7N1Y2N1Y2N1Y2N4Y3N24Y4N1Y1N7",
     "Y10N2Y3N1Y1N12Y1N1Y9N1Y3N1Y22N1Y7N1Y2N1Y5N3Y4N8Y1N1Y2N3Y1N15Y2N4Y12N7Y1N8Y2N1Y8N2Y2N2Y22N1",
     "Y7N1Y2N1Y5N3Y1N2Y1N6Y2N2Y2N15Y2N1Y3N4Y18N11Y1N1Y6N3Y3N1Y4N3Y2N1Y1N1Y2N3Y2N3Y3N3Y12N5Y1N1Y2",
     "N3Y3N1Y3N3Y1N21Y21N6Y3N1Y8N1Y3N1Y23N1Y16N3Y1N3Y4N19Y3N2Y1N2Y2N4Y10N7Y10N1Y11N1Y3N1Y23N1Y10",
     "N1Y5N3Y2N1Y2N1Y2N2Y2N1Y2N17Y2N1Y2N4Y10N1Y3N14Y11N1Y3N1Y41N2Y1N1Y2N5Y3N1Y3N1Y2N4Y3N1Y10N4",
     "Y26N2Y2N1Y18N3Y24N1Y9N1Y1N2Y7N9Y2N6Y7N7Y10N2Y3N12Y48N1Y2N11Y8N8Y13N37Y2N1Y1N1Y5N1Y24N1Y1N1",
     "Y10N1Y2N9Y1N2Y5N1Y1N9Y10N2Y4N32Y24N2Y27N1Y1N1Y1N1Y14N1Y36N18Y1N5Y1N2Y5N49Y8N1Y6N1Y13N37Y45",
     "N4Y1N6Y1N2Y2N2Y25N2Y4N3Y16N4Y13N1Y2N2Y6N1Y15N1Y40N1Y1N5Y1N2Y377N1Y4N2Y7N1Y1N1Y4N2Y41N1Y4N2",
     "Y33N1Y4N2Y7N1Y1N1Y4N2Y15N1Y57N1Y4N2Y67N5Y29N3Y26N6Y86N2Y6N2Y669N3Y89N7Y18N3Y1N9Y19N2Y3N9",
     "Y18N14Y13N1Y3N15Y52N2Y1N7Y8N1Y2N11Y9N3Y10N6Y10N6Y11N5Y10N6Y89N7Y5N2Y34N1Y1N5Y70N10Y31N4Y4",
     "N2Y3N4Y2N1Y6N7Y1N3Y42N2Y5N11Y44N4Y26N6Y11N3Y57N2Y2N3Y56N1Y1N9Y1N1Y2N8Y6N13Y10N6Y10N6Y14N86",
     "Y48N7Y1N1Y5N1Y10N3Y27N9Y11N3Y32N4Y2N2Y1N3Y56N1Y1N2Y3N1Y1N3Y2N8Y48N8Y2N5Y15N3Y60N7Y43N2Y11",
     "N11Y1N13Y1N7Y4N1Y6N1Y3N2Y1N5Y192N64Y278N2Y6N2Y38N2Y6N2Y8N1Y1N1Y1N1Y1N1Y31N2Y53N1Y15N1Y14N2",
     "Y6N1Y19N2Y3N1Y9N1Y11N5Y24N7Y49N16Y2N2Y27N1Y13N3Y33N63Y140N4Y663N25Y11N21Y1812N2Y32N1Y344N3",
     "Y2N5Y45N1Y1N5Y1N2Y56N7Y2N15Y23N9Y7N1Y7N1Y7N1Y7N1Y7N1Y7N1Y7N1Y7N33Y94N34Y26N1Y89N12Y214N26",
     "Y12N4Y42N6Y16N1Y86N4Y101N5Y43N1Y94N1Y84N12Y47N1Y29293N3Y55N9Y348N20Y47N4Y1N10Y32N2Y80N2Y6",
     "N8Y203N5Y2N1Y1N1Y5N24Y16N1Y3N1Y4N1Y25N2Y5N4Y10N6Y56N8Y68N10Y12N24Y13N1Y38N8Y25N11Y2N11Y30",
     "N6Y48N1Y2N4Y2N2Y16N1Y11N4Y7N1Y25N1Y41N6Y2N2Y2N11Y3N1Y8N1Y1N2Y10N2Y32N1Y51N1Y1N3Y2N2Y5N2Y1",
     "N1Y1N24Y17N2Y8N11Y6N2Y6N2Y6N9Y7N1Y7N1Y60N4Y117N1Y2N1Y4N3Y10N6Y11172N12Y23N4Y49N8452Y366N2",
     "Y106N38Y7N12Y5N5Y1N1Y24N1Y5N1Y1N1Y2N1Y2N1Y125N16Y445N2Y54N7Y1N32Y16N16Y10N22Y35N1Y19N1Y4N4",
     "Y5N1Y135N4Y157N2Y31N3Y6N2Y6N2Y6N2Y3N3Y7N1Y7N13Y2N2Y12N1Y26N1Y19N1Y2N1Y15N2Y14N34Y123N5Y3N4",
     "Y45N3Y88N1Y13N3Y1N47Y45N131Y29N3Y49N16Y27N4Y36N9Y30N5Y38N10Y30N1Y37N4Y14N42Y158N2Y10N6Y36",
     "N4Y36N4Y40N8Y52N11Y12N1Y15N1Y7N1Y2N1Y11N1Y15N1Y7N1Y2N67Y311N9Y22N10Y8N24Y6N1Y42N1Y9N69Y6N2",
     "Y1N1Y44N1Y2N3Y1N2Y23N1Y72N8Y9N48Y19N1Y2N5Y33N3Y27N5Y1N64Y56N4Y20N2Y47N15Y4N1Y3N1Y29N10Y9N7",
     "Y9N7Y64N32Y37N6Y12N9Y54N3Y29N2Y27N5Y26N7Y4N12Y7N80Y73N55Y51N13Y51N7Y42N12Y10N294Y31N1Y42N3",
     "Y1N2Y2N78Y40N8Y22N11Y9N22Y18N4Y4N38Y28N20Y23N9Y1N1Y54N15Y7N4Y30N1Y2N2Y1N12Y49N4Y2N2Y2N1Y4",
     "N14Y25N7Y10N9Y36N5Y1N9Y18N8Y35N1Y3N11Y52N9Y10N4Y2N1Y16N1Y20N11Y18N1Y28N3Y2N1Y1N2Y6N1Y2N63",
     "Y7N1Y1N1Y4N1Y15N1Y11N6Y47N1Y3N13Y10N8Y2N1Y8N2Y2N2Y22N1Y7N1Y2N1Y5N3Y1N1Y1N1Y4N2Y2N2Y3N2Y1",
     "N12Y7N156Y56N8Y2N3Y1N1Y21N1Y1N1Y3N30Y48N1Y2N6Y1N1Y2N1Y1N2Y1N2Y4N8Y10N166Y47N1Y2N6Y4N2Y1N2",
     "Y27N36Y51N8Y2N1Y1N2Y4N11Y10N6Y13N19Y43N1Y1N1Y2N6Y1N1Y2N6Y10N54Y27N5Y2N4Y1N9Y23N185Y47N9Y1",
     "N2Y1N100Y83N12Y8N2Y1N2Y8N1Y2N1Y24N1Y5N1Y2N4Y1N1Y4N1Y3N9Y10N70Y8N2Y42N8Y4N1Y4N27Y1N10Y40N6",
     "Y2N4Y8N9Y1N6Y2N3Y46N13Y1N2Y9N13Y73N7Y10N246Y9N1Y38N14Y1N1Y6N10Y29N3Y32N25Y1N7Y1N2Y1N75Y7N1",
     "Y2N1Y38N21Y1N9Y10N6Y6N1Y2N1Y37N4Y2N1Y1N1Y1N7Y10N310Y19N2Y4N9Y15N1Y36N8Y2N1Y1N1Y23N86Y1N15",
     "Y50N13Y923N102Y111N1Y5N11Y196N2636Y99N13Y1072N17Y6N4025Y583N8633Y569N7Y31N1Y10N4Y81N1Y10N6",
     "Y30N7Y1N10Y48N7Y15N10Y10N1Y7N1Y21N5Y19N688Y91N101Y75N5Y56N11Y13N64Y4N12Y2N14Y6136N8Y1238",
     "N42Y9N8935Y4N1Y7N1Y2N1Y291N15Y1N29Y3N2Y1N14Y4N8Y396N2308Y107N5Y13N3Y9N7Y10N2Y1N2Y1N4784",
     "Y116N60Y246N10Y39N2Y60N1Y1N3Y4N21Y2N7Y30N4Y61N21Y66N3Y1N122Y20N12Y20N12Y87N9Y25N135Y85N1",
     "Y71N1Y2N2Y1N2Y2N2Y4N1Y12N1Y1N1Y7N1Y65N1Y4N2Y8N1Y7N1Y28N1Y4N1Y5N1Y1N3Y7N1Y340N2Y292N2Y562",
     "N55Y4N50Y8N1Y14N1Y7N1140Y31N6Y6N261Y62N146Y45N10Y7N2Y10N4Y2N320Y30N18Y44N4Y10N5Y1N464Y28N4",
     "Y10N742Y7N1Y4N1Y2N1Y15N1Y197N2Y9N48Y68N7Y1N4Y10N4Y2N785Y68N76Y61N194Y4N1Y27N1Y2N1Y1N2Y1N1",
     "Y10N1Y4N1Y1N1Y1N6Y1N4Y1N1Y1N1Y1N1Y3N1Y2N1Y1N2Y1N1Y1N1Y1N1Y1N1Y1N1Y2N1Y1N2Y4N1Y7N1Y4N1Y4N1",
     "Y1N1Y10N1Y17N5Y3N1Y5N1Y17N52Y2N270Y44N4Y100N12Y15N2Y15N1Y15N1Y37N10Y174N56Y29N13Y44N4Y9N7",
     "Y2N14Y6N154Y984N4Y17N3Y13N3Y119N4Y95N6Y12N4Y1N15Y12N4Y56N8Y10N6Y40N8Y30N2Y2N78Y340N12Y14N2",
     "Y13N3Y9N7Y46N1Y7N8Y14N4Y9N7Y9N7Y147N1Y55N37Y10N1030Y42720N32Y4154N6Y222N2Y5762N14Y7473",
     "N3103Y542N1506Y4939N5Y4192"]),
  (["grext", "graphemeextend"],
    ["N768Y112N275Y7N263Y45N1Y1N1Y2N1Y2N1Y1N72Y11N48Y21N16Y1N101Y7N2Y6N2Y2N1Y4N35Y1N30Y27N91Y11",
     "N58Y9N9Y1N24Y4N1Y9N1Y3N1Y5N43Y3N60Y8N42Y24N1Y32N55Y1N1Y1N4Y8N4Y1N3Y7N10Y2N29Y1N58Y1N1Y1N2",
     "Y4N8Y1N9Y1N10Y2N26Y1N2Y2N57Y1N4Y2N4Y2N2Y3N3Y1N30Y2N3Y1N11Y2N57Y1N4Y5N1Y2N4Y1N20Y2N22Y6N1Y1",
     "N58Y1N1Y2N1Y4N8Y1N7Y3N10Y2N30Y1N59Y1N1Y1N12Y1N9Y1N40Y1N3Y1N55Y1N1Y3N5Y3N1Y4N7Y2N11Y2N29Y1",
     "N58Y1N2Y1N2Y1N3Y1N5Y2N7Y2N11Y2N28Y2N57Y2N1Y1N2Y4N8Y1N9Y1N10Y2N29Y1N72Y1N4Y1N2Y3N1Y1N8Y1N81",
     "Y1N2Y7N12Y8N98Y1N2Y9N11Y7N73Y2N27Y1N1Y1N1Y1N55Y14N1Y5N1Y2N5Y11N1Y36N9Y1N102Y4N1Y6N1Y2N2Y2",
     "N25Y2N4Y3N16Y4N13Y1N2Y2N6Y1N15Y1N703Y3N946Y3N29Y2N30Y2N30Y2N64Y2N1Y7N8Y1N2Y11N9Y1N45Y3N1Y1",
     "N117Y2N34Y1N118Y3N4Y2N9Y1N6Y3N219Y2N2Y1N58Y1N1Y7N1Y1N1Y1N2Y8N6Y10N2Y1N48Y31N49Y4N48Y7N1Y1",
     "N5Y1N40Y9N12Y2N32Y4N2Y2N1Y3N56Y1N1Y2N3Y1N1Y3N58Y8N2Y2N152Y3N1Y13N1Y7N4Y1N6Y1N3Y2N198Y64",
     "N524Y1N195Y33N3070Y3N141Y1N96Y32N554Y6N105Y2N30164Y4N1Y10N32Y2N80Y2N272Y1N3Y1N4Y1N25Y2N5Y1",
     "N151Y2N26Y18N13Y1N38Y8N25Y11N46Y3N48Y1N2Y4N2Y2N39Y1N67Y6N2Y2N2Y2N12Y1N8Y1N47Y1N51Y1N1Y3N2",
     "Y2N5Y2N1Y1N42Y2N8Y1N238Y1N2Y1N4Y1N20272Y1N737Y16N16Y16N366Y2N605Y1N226Y1N149Y5N1670Y3N1Y2",
     "N5Y4N40Y3N4Y1N165Y2N573Y4N387Y2N80Y3N70Y11N49Y4N123Y1N54Y15N41Y1N2Y2N10Y3N49Y4N2Y2N7Y1N61",
     "Y3N36Y5N1Y8N62Y1N12Y2N52Y9N10Y4N2Y1N95Y3N2Y1N1Y2N6Y1N2Y1N157Y1N3Y8N21Y2N57Y2N1Y1N1Y1N22Y1",
     "N14Y7N3Y5N195Y8N2Y3N1Y1N23Y1N81Y1N2Y6N1Y1N2Y1N1Y2N1Y2N235Y1N2Y4N6Y2N1Y2N27Y2N85Y8N2Y1N1Y2",
     "N106Y1N1Y1N2Y6N1Y1N101Y3N2Y4N1Y5N259Y9N1Y2N245Y1N10Y2N1Y1N4Y1N144Y4N2Y2N4Y1N32Y10N40Y6N2Y4",
     "N8Y1N9Y6N2Y3N46Y13N1Y2N406Y7N1Y6N1Y1N82Y22N2Y7N1Y2N1Y2N122Y6N3Y1N1Y2N1Y7N1Y1N72Y2N3Y1N1Y1",
     "N347Y2N11Y2N52Y5N5Y1N1Y1N5373Y1N6Y15N13978Y5N59Y7N1048Y1N63Y4N81Y1N19640Y2N4705Y46N2Y23",
     "N542Y1N1Y3N4Y5N8Y8N2Y7N30Y4N148Y3N1979Y55N4Y50N8Y1N14Y1N22Y5N1Y15N1360Y7N1Y17N2Y7N1Y2N1Y5",
     "N100Y1N160Y7N375Y1N61Y4N508Y4N992Y7N109Y7N792277Y96N128Y240"]),
  (["hex", "hexdigit"],
    ["N48Y10N7Y6N26Y6N65193Y10N7Y6N26Y6"]),
  (["idc", "idcontinue"],
    ["N48Y10N7Y26N4Y1N1Y26N47Y1N10Y1N1Y1N2Y1N5Y23N1Y31N1Y458N4Y12N14Y5N7Y1N1Y1N17Y117N1Y2N2Y4N1",
     "Y1N6Y5N1Y1N1Y20N1Y83N1Y139N1Y5N2Y166N1Y38N2Y1N6Y41N8Y45N1Y1N1Y2N1Y2N1Y1N8Y27N4Y4N29Y11N5",
     "Y74N4Y102N1Y8N2Y10N1Y19N2Y1N16Y59N2Y101N14Y54N4Y1N2Y1N2Y46N18Y28N4Y11N5Y24N1Y6N9Y74N1Y129",
     "N2Y10N1Y19N1Y8N2Y2N2Y22N1Y7N1Y1N3Y4N2Y9N2Y2N2Y4N8Y1N4Y2N1Y5N2Y12N10Y1N1Y1N2Y3N1Y6N4Y2N2Y22",
     "N1Y7N1Y2N1Y2N1Y2N2Y1N1Y5N4Y2N2Y3N3Y1N7Y4N1Y1N7Y16N11Y3N1Y9N1Y3N1Y22N1Y7N1Y2N1Y5N2Y10N1Y3N1",
     "Y3N2Y1N15Y4N2Y10N9Y7N1Y3N1Y8N2Y2N2Y22N1Y7N1Y2N1Y5N2Y9N2Y2N2Y3N7Y3N4Y2N1Y5N2Y10N1Y1N16Y2N1",
     "Y6N3Y3N1Y4N3Y2N1Y1N1Y2N3Y2N3Y3N3Y12N4Y5N3Y3N1Y4N2Y1N6Y1N14Y10N16Y13N1Y3N1Y23N1Y16N2Y9N1Y3",
     "N1Y4N7Y2N1Y3N2Y1N2Y4N2Y10N16Y4N1Y8N1Y3N1Y23N1Y10N1Y5N2Y9N1Y3N1Y4N7Y2N6Y2N1Y4N2Y10N1Y3N12",
     "Y13N1Y3N1Y51N1Y3N1Y5N5Y4N7Y5N2Y10N10Y6N1Y3N1Y18N3Y24N1Y9N1Y1N2Y7N3Y1N4Y6N1Y1N1Y8N6Y10N2Y2",
     "N13Y58N5Y15N1Y10N39Y2N1Y1N1Y5N1Y24N1Y1N1Y23N2Y5N1Y1N1Y7N1Y10N2Y4N32Y1N23Y2N6Y10N11Y1N1Y1N1",
     "Y1N4Y10N1Y36N4Y20N1Y18N1Y36N9Y1N57Y74N6Y78N2Y38N1Y1N5Y1N2Y43N1Y333N1Y4N2Y7N1Y1N1Y4N2Y41N1",
     "Y4N2Y33N1Y4N2Y7N1Y1N1Y4N2Y15N1Y57N1Y4N2Y67N2Y3N9Y9N14Y16N16Y86N2Y6N3Y620N2Y17N1Y26N5Y75N3",
     "Y11N7Y22N9Y22N11Y20N12Y13N1Y3N1Y2N12Y84N3Y1N4Y2N2Y10N33Y3N1Y11N6Y89N7Y43N5Y70N10Y31N1Y12N4",
     "Y12N10Y40N2Y5N11Y44N4Y26N6Y11N37Y28N4Y63N1Y29N2Y11N6Y10N13Y1N8Y14N1Y16N49Y77N3Y10N17Y9N12",
     "Y116N12Y56N8Y10N3Y49N2Y9N7Y43N2Y3N16Y3N1Y39N5Y534N2Y6N2Y38N2Y6N2Y8N1Y1N1Y1N1Y1N1Y31N2Y53N1",
     "Y7N1Y1N3Y3N1Y7N3Y4N2Y6N4Y13N5Y3N1Y7N66Y2N19Y1N28Y1N13Y1N16Y13N51Y13N4Y1N3Y12N17Y1N4Y1N2Y10",
     "N1Y1N2Y6N6Y1N1Y1N1Y1N1Y16N2Y4N5Y5N4Y1N17Y41N2679Y229N6Y9N12Y38N1Y1N5Y1N2Y56N7Y1N15Y24N9Y7",
     "N1Y7N1Y7N1Y7N1Y7N1Y7N1Y7N1Y7N1Y32N517Y3N25Y15N1Y5N2Y5N4Y86N2Y7N1Y90N1Y4N5Y43N1Y94N17Y32N48",
     "Y16N512Y6592N64Y22157N67Y46N2Y269N3Y28N20Y48N4Y10N1Y115N37Y9N2Y103N2Y64N5Y2N1Y1N1Y5N24Y54",
     "N4Y1N19Y52N12Y70N10Y10N6Y24N3Y1N1Y49N2Y36N12Y29N3Y65N14Y11N6Y31N1Y55N9Y14N2Y10N6Y23N3Y73",
     "N24Y3N2Y16N2Y5N10Y6N2Y6N2Y6N9Y7N1Y7N1Y43N1Y14N6Y123N1Y2N2Y10N6Y11172N12Y23N4Y49N8452Y366N2",
     "Y106N38Y7N12Y5N5Y12N1Y13N1Y5N1Y1N1Y2N1Y2N1Y108N33Y363N18Y64N2Y54N40Y12N4Y16N16Y16N3Y2N24Y3",
     "N32Y5N1Y135N19Y10N7Y26N4Y1N1Y26N11Y89N3Y6N2Y6N2Y6N2Y3N35Y12N1Y26N1Y19N1Y2N1Y15N2Y14N34Y123",
     "N69Y53N136Y1N130Y29N3Y49N15Y1N31Y32N13Y30N5Y43N5Y30N2Y36N4Y8N1Y5N42Y158N2Y10N6Y36N4Y36N4",
     "Y40N8Y52N12Y11N1Y15N1Y7N1Y2N1Y11N1Y15N1Y7N1Y2N67Y311N9Y22N10Y8N24Y6N1Y42N1Y9N69Y6N2Y1N1Y44",
     "N1Y2N3Y1N2Y23N10Y23N9Y31N65Y19N1Y2N10Y22N10Y26N70Y56N6Y2N64Y4N1Y2N5Y8N1Y3N1Y29N2Y3N4Y1N32",
     "Y29N3Y29N35Y8N1Y30N25Y54N10Y22N10Y19N13Y18N110Y73N55Y51N13Y51N13Y40N8Y10N326Y42N1Y2N3Y2N75",
     "Y32N10Y1N8Y33N31Y22N42Y21N27Y23N9Y71N31Y16N9Y60N7Y1N13Y25N7Y10N6Y53N1Y10N4Y4N8Y36N2Y1N9Y69",
     "N4Y4N1Y13N1Y1N35Y18N1Y37N6Y4N62Y7N1Y1N1Y4N1Y15N1Y10N7Y59N5Y10N6Y4N1Y8N2Y2N2Y22N1Y7N1Y2N1Y5",
     "N1Y10N2Y2N2Y3N2Y1N6Y1N5Y7N2Y7N3Y5N139Y75N5Y10N4Y4N30Y70N1Y1N8Y10N166Y54N2Y9N23Y6N34Y65N3Y1",
     "N11Y10N38Y57N7Y10N54Y27N2Y15N4Y10N6Y7N185Y59N101Y74N21Y8N2Y1N2Y8N1Y2N1Y30N1Y2N2Y9N12Y10N70",
     "Y8N2Y46N2Y8N1Y2N27Y63N8Y1N8Y74N3Y1N18Y73N263Y9N1Y45N1Y9N15Y10N24Y30N2Y22N1Y14N73Y7N1Y2N1",
     "Y44N3Y1N1Y2N1Y9N8Y10N6Y6N1Y2N1Y37N1Y2N1Y6N7Y10N310Y23N9Y17N1Y41N3Y5N13Y10N86Y1N79Y922N102",
     "Y111N17Y196N2636Y97N15Y1072N16Y22N4010Y583N8633Y569N7Y31N1Y10N6Y79N1Y10N6Y30N2Y5N11Y55N9Y4",
     "N12Y10N9Y21N5Y19N688Y64N128Y75N4Y57N7Y17N64Y2N1Y2N11Y2N14Y6136N8Y1238N42Y9N8935Y4N1Y7N1Y2",
     "N1Y291N15Y1N29Y3N2Y1N14Y4N8Y396N2308Y107N5Y13N3Y9N7Y10N3Y2N4705Y46N2Y23N542Y5N3Y6N8Y8N2Y7",
     "N30Y4N148Y3N443Y85N1Y71N1Y2N2Y1N2Y2N2Y4N1Y12N1Y1N1Y7N1Y65N1Y4N2Y8N1Y7N1Y28N1Y4N1Y5N1Y1N3Y7",
     "N1Y340N2Y25N1Y25N1Y31N1Y25N1Y31N1Y25N1Y31N1Y25N1Y31N1Y25N1Y8N2Y50N512Y55N4Y50N8Y1N14Y1N22",
     "Y5N1Y15N1104Y31N6Y6N213Y7N1Y17N2Y7N1Y2N1Y5N5Y62N33Y1N112Y45N3Y14N2Y10N4Y1N321Y31N17Y58N470",
     "Y42N742Y7N1Y4N1Y2N1Y15N1Y197N11Y7N41Y76N4Y10N1190Y4N1Y27N1Y2N1Y1N2Y1N1Y10N1Y4N1Y1N1Y1N6Y1",
     "N4Y1N1Y1N1Y1N1Y3N1Y2N1Y1N2Y1N1Y1N1Y1N1Y1N1Y1N1Y2N1Y1N2Y4N1Y7N1Y4N1Y4N1Y1N1Y10N1Y17N5Y3N1Y5",
     "N1Y17N3380Y10N1030Y42720N32Y4154N6Y222N2Y5762N14Y7473N3103Y542N1506Y4939N5Y4192N712016Y240"]),
  (["ids", "idstart"],
    ["N65Y26N6Y26N47Y1N10Y1N4Y1N5Y23N1Y31N1Y458N4Y12N14Y5N7Y1N1Y1N129Y5N1Y2N2Y4N1Y1N6Y1N1Y3N1Y1",
     "N1Y20N1Y83N1Y139N8Y166N1Y38N2Y1N6Y41N71Y27N4Y4N45Y43N35Y2N1Y99N1Y1N15Y2N7Y2N10Y3N2Y1N16Y1",
     "N1Y30N29Y89N11Y1N24Y33N9Y2N4Y1N5Y22N4Y1N9Y1N3Y1N23Y25N7Y11N5Y24N1Y6N17Y42N58Y54N3Y1N18Y1N7",
     "Y10N15Y16N4Y8N2Y2N2Y22N1Y7N1Y1N3Y4N3Y1N16Y1N13Y2N1Y3N14Y2N10Y1N8Y6N4Y2N2Y22N1Y7N1Y2N1Y2N1",
     "Y2N31Y4N1Y1N19Y3N16Y9N1Y3N1Y22N1Y7N1Y2N1Y5N3Y1N18Y1N15Y2N23Y1N11Y8N2Y2N2Y22N1Y7N1Y2N1Y5N3",
     "Y1N30Y2N1Y3N15Y1N17Y1N1Y6N3Y3N1Y4N3Y2N1Y1N1Y2N3Y2N3Y3N3Y12N22Y1N52Y8N1Y3N1Y23N1Y16N3Y1N26",
     "Y3N2Y1N2Y2N30Y1N4Y8N1Y3N1Y23N1Y10N1Y5N3Y1N31Y2N1Y2N15Y2N17Y9N1Y3N1Y41N2Y1N16Y1N5Y3N8Y3N24",
     "Y6N5Y18N3Y24N1Y9N1Y1N2Y7N58Y48N1Y2N12Y7N58Y2N1Y1N1Y5N1Y24N1Y1N1Y10N1Y2N9Y1N2Y5N1Y1N21Y4N32",
     "Y1N63Y8N1Y36N27Y5N115Y43N20Y1N16Y6N4Y4N3Y1N3Y2N7Y3N4Y13N12Y1N17Y38N1Y1N5Y1N2Y43N1Y333N1Y4",
     "N2Y7N1Y1N1Y4N2Y41N1Y4N2Y33N1Y4N2Y7N1Y1N1Y4N2Y15N1Y57N1Y4N2Y67N37Y16N16Y86N2Y6N3Y620N2Y17N1",
     "Y26N5Y75N3Y11N7Y18N13Y19N14Y18N14Y13N1Y3N15Y52N35Y1N4Y1N67Y89N7Y41N1Y1N5Y70N10Y31N49Y30N2",
     "Y5N11Y44N4Y26N54Y23N9Y53N82Y1N93Y47N17Y8N54Y30N13Y2N10Y44N26Y36N41Y3N10Y36N2Y9N7Y43N2Y3N41",
     "Y4N1Y6N1Y2N3Y1N5Y192N64Y278N2Y6N2Y38N2Y6N2Y8N1Y1N1Y1N1Y1N1Y31N2Y53N1Y7N1Y1N3Y3N1Y7N3Y4N2Y6",
     "N4Y13N5Y3N1Y7N116Y1N13Y1N16Y13N101Y1N4Y1N2Y10N1Y1N2Y6N6Y1N1Y1N1Y1N1Y16N2Y4N5Y5N4Y1N17Y41",
     "N2679Y229N6Y4N3Y2N12Y38N1Y1N5Y1N2Y56N7Y1N16Y23N9Y7N1Y7N1Y7N1Y7N1Y7N1Y7N1Y7N1Y7N550Y3N25Y9",
     "N7Y5N2Y5N4Y86N4Y5N1Y90N1Y4N5Y43N1Y94N17Y32N48Y16N512Y6592N64Y22157N67Y46N2Y269N3Y16N10Y2",
     "N20Y47N16Y31N2Y80N39Y9N2Y103N2Y64N5Y2N1Y1N1Y5N24Y16N1Y3N1Y4N1Y23N29Y52N14Y50N62Y6N3Y1N1Y2",
     "N11Y28N10Y23N25Y29N7Y47N28Y1N16Y5N1Y10N10Y5N1Y41N23Y3N1Y8N20Y23N3Y1N3Y50N1Y1N3Y2N2Y5N2Y1N1",
     "Y1N24Y3N2Y11N7Y3N12Y6N2Y6N2Y6N9Y7N1Y7N1Y43N1Y14N6Y115N29Y11172N12Y23N4Y49N8452Y366N2Y106",
     "N38Y7N12Y5N5Y1N1Y10N1Y13N1Y5N1Y1N1Y2N1Y2N1Y108N33Y363N18Y64N2Y54N40Y12N116Y5N1Y135N36Y26N6",
     "Y26N11Y89N3Y6N2Y6N2Y6N2Y3N35Y12N1Y26N1Y19N1Y2N1Y15N2Y14N34Y123N69Y53N267Y29N3Y49N47Y32N13",
     "Y30N5Y38N10Y30N2Y36N4Y8N1Y5N42Y158N18Y36N4Y36N4Y40N8Y52N12Y11N1Y15N1Y7N1Y2N1Y11N1Y15N1Y7N1",
     "Y2N67Y311N9Y22N10Y8N24Y6N1Y42N1Y9N69Y6N2Y1N1Y44N1Y2N3Y1N2Y23N10Y23N9Y31N65Y19N1Y2N10Y22N10",
     "Y26N70Y56N6Y2N64Y1N15Y4N1Y3N1Y29N42Y29N3Y29N35Y8N1Y28N27Y54N10Y22N10Y19N13Y18N110Y73N55Y51",
     "N13Y51N13Y36N348Y42N6Y2N78Y29N10Y1N8Y22N42Y18N46Y21N27Y23N12Y53N57Y2N2Y1N13Y45N32Y25N26Y36",
     "N29Y1N2Y1N8Y35N3Y1N12Y48N14Y4N21Y1N1Y1N35Y18N1Y25N19Y2N63Y7N1Y1N1Y4N1Y15N1Y10N7Y47N38Y8N2",
     "Y2N2Y22N1Y7N1Y2N1Y5N3Y1N18Y1N12Y5N158Y53N18Y4N20Y3N30Y48N20Y2N1Y1N184Y47N41Y4N36Y48N20Y1",
     "N59Y43N13Y1N71Y27N37Y7N185Y44N116Y64N31Y8N2Y1N2Y8N1Y2N1Y24N15Y1N1Y1N94Y8N2Y39N16Y1N1Y1N28",
     "Y1N10Y40N7Y1N21Y1N11Y46N19Y1N18Y73N263Y9N1Y37N17Y1N49Y30N112Y7N1Y2N1Y38N21Y1N25Y6N1Y2N1Y32",
     "N14Y1N327Y19N15Y1N1Y13N1Y34N124Y1N79Y922N102Y111N17Y196N2636Y97N15Y1072N17Y6N4025Y583N8633",
     "Y569N7Y31N17Y79N17Y30N18Y48N16Y4N31Y21N5Y19N688Y64N128Y75N5Y1N66Y13N64Y2N1Y1N28Y6136N8",
     "Y1238N42Y9N8935Y4N1Y7N1Y2N1Y291N15Y1N29Y3N2Y1N14Y4N8Y396N2308Y107N5Y13N3Y9N7Y10N5990Y85N1",
     "Y71N1Y2N2Y1N2Y2N2Y4N1Y12N1Y1N1Y7N1Y65N1Y4N2Y8N1Y7N1Y28N1Y4N1Y5N1Y1N3Y7N1Y340N2Y25N1Y25N1",
     "Y31N1Y25N1Y31N1Y25N1Y31N1Y25N1Y31N1Y25N1Y8N1844Y31N6Y6N261Y62N146Y45N10Y7N16Y1N321Y30N18",
     "Y44N484Y28N756Y7N1Y4N1Y2N1Y15N1Y197N59Y68N7Y1N1204Y4N1Y27N1Y2N1Y1N2Y1N1Y10N1Y4N1Y1N1Y1N6Y1",
     "N4Y1N1Y1N1Y1N1Y3N1Y2N1Y1N2Y1N1Y1N1Y1N1Y1N1Y1N1Y2N1Y1N2Y4N1Y7N1Y4N1Y4N1Y1N1Y10N1Y17N5Y3N1Y5",
     "N1Y17N4420Y42720N32Y4154N6Y222N2Y5762N14Y7473N3103Y542N1506Y4939N5Y4192"]),
  (["idsb", "idsbinaryoperator"],
    ["N12272Y2N2Y8"]),
  (["idst", "idstrinaryoperator"],
    ["N12274Y2"]),
  (["ideo", "ideographic"],
    ["N12294Y2N25Y9N14Y3N965Y6592N64Y20992N22784Y366N2Y106N29962Y1N27Y6136N8Y1238N42Y9N9319Y396",
     "N19716Y42720N32Y4154N6Y222N2Y5762N14Y7473N3103Y542N1506Y4939N5Y4192"]),
  (["joinc", "joincontrol"],
    ["N8204Y2"]),
  (["loe", "logicalorderexception"],
    ["N3648Y5N123Y5N2800Y3N2Y1N37114Y2N2Y1N1Y2"]),
  (["lower", "lowercase"],
    ["N97Y26N47Y1N10Y1N4Y1N36Y24N1Y8N1Y1N1Y1N1Y1N1Y1N1Y1N1Y1N1Y1N1Y1N1Y1N1Y1N1Y1N1Y1N1Y1N1Y1N1Y1",
     "N1Y1N1Y1N1Y1N1Y1N1Y1N1Y1N1Y1N1Y1N1Y1N1Y1N1Y1N1Y1N1Y2N1Y1N1Y1N1Y1N1Y1N1Y1N1Y1N1Y1N1Y2N1Y1N1",
     "Y1N1Y1N1Y1N1Y1N1Y1N1Y1N1Y1N1Y1N1Y1N1Y1N1Y1N1Y1N1Y1N1Y1N1Y1N1Y1N1Y1N1Y1N1Y1N1Y1N1Y1N1Y1N2Y1",
     "N1Y1N1Y3N2Y1N1Y1N2Y1N3Y2N4Y1N2Y1N3Y3N2Y1N2Y1N1Y1N1Y1N2Y1N1Y2N1Y1N2Y1N3Y1N1Y1N2Y2N2Y3N6Y1N2",
     "Y1N2Y1N1Y1N1Y1N1Y1N1Y1N1Y1N1Y1N1Y1N1Y2N1Y1N1Y1N1Y1N1Y1N1Y1N1Y1N1Y1N1Y1N1Y2N2Y1N1Y1N3Y1N1Y1",
     "N1Y1N1Y1N1Y1N1Y1N1Y1N1Y1N1Y1N1Y1N1Y1N1Y1N1Y1N1Y1N1Y1N1Y1N1Y1N1Y1N1Y1N1Y1N1Y1N1Y1N1Y1N1Y1N1",
     "Y1N1Y1N1Y1N1Y1N1Y1N1Y7N2Y1N2Y2N1Y1N4Y1N1Y1N1Y1N1Y1N1Y69N1Y36N7Y2N30Y5N96Y1N43Y1N1Y1N3Y1N2",
     "Y4N18Y1N27Y35N1Y2N3Y3N1Y1N1Y1N1Y1N1Y1N1Y1N1Y1N1Y1N1Y1N1Y1N1Y1N1Y1N1Y5N1Y1N2Y1N2Y2N51Y48N1",
     "Y1N1Y1N1Y1N1Y1N1Y1N1Y1N1Y1N1Y1N1Y1N1Y1N1Y1N1Y1N1Y1N1Y1N1Y1N1Y1N1Y1N9Y1N1Y1N1Y1N1Y1N1Y1N1Y1",
     "N1Y1N1Y1N1Y1N1Y1N1Y1N1Y1N1Y1N1Y1N1Y1N1Y1N1Y1N1Y1N1Y1N1Y1N1Y1N1Y1N1Y1N1Y1N1Y1N1Y1N1Y1N2Y1N1",
     "Y1N1Y1N1Y1N1Y1N1Y1N1Y2N1Y1N1Y1N1Y1N1Y1N1Y1N1Y1N1Y1N1Y1N1Y1N1Y1N1Y1N1Y1N1Y1N1Y1N1Y1N1Y1N1Y1",
     "N1Y1N1Y1N1Y1N1Y1N1Y1N1Y1N1Y1N1Y1N1Y1N1Y1N1Y1N1Y1N1Y1N1Y1N1Y1N1Y1N1Y1N1Y1N1Y1N1Y1N1Y1N1Y1N1",
     "Y1N1Y1N1Y1N1Y1N1Y1N1Y1N1Y1N1Y1N1Y1N48Y41N2887Y43N1Y4N760Y6N2178Y9N119Y192N65Y1N1Y1N1Y1N1Y1",
     "N1Y1N1Y1N1Y1N1Y1N1Y1N1Y1N1Y1N1Y1N1Y1N1Y1N1Y1N1Y1N1Y1N1Y1N1Y1N1Y1N1Y1N1Y1N1Y1N1Y1N1Y1N1Y1N1",
     "Y1N1Y1N1Y1N1Y1N1Y1N1Y1N1Y1N1Y1N1Y1N1Y1N1Y1N1Y1N1Y1N1Y1N1Y1N1Y1N1Y1N1Y1N1Y1N1Y1N1Y1N1Y1N1Y1",
     "N1Y1N1Y1N1Y1N1Y1N1Y1N1Y1N1Y1N1Y1N1Y1N1Y1N1Y1N1Y1N1Y1N1Y1N1Y1N1Y1N1Y1N1Y1N1Y1N1Y1N1Y1N1Y1N1",
     "Y1N1Y1N1Y1N1Y9N1Y1N1Y1N1Y1N1Y1N1Y1N1Y1N1Y1N1Y1N1Y1N1Y1N1Y1N1Y1N1Y1N1Y1N1Y1N1Y1N1Y1N1Y1N1Y1",
     "N1Y1N1Y1N1Y1N1Y1N1Y1N1Y1N1Y1N1Y1N1Y1N1Y1N1Y1N1Y1N1Y1N1Y1N1Y1N1Y1N1Y1N1Y1N1Y1N1Y1N1Y1N1Y1N1",
     "Y1N1Y1N1Y1N1Y1N1Y1N1Y1N1Y1N1Y9N8Y6N10Y8N8Y8N8Y6N10Y8N8Y8N8Y14N2Y8N8Y8N8Y8N8Y5N1Y2N6Y1N3Y3",
     "N1Y2N8Y4N2Y2N8Y8N10Y3N1Y2N121Y1N13Y1N16Y13N109Y1N3Y2N3Y1N27Y1N4Y1N4Y1N2Y2N8Y4N4Y1N33Y16N4",
     "Y1N843Y26N1862Y48N1Y1N3Y2N1Y1N1Y1N1Y1N4Y1N1Y2N1Y8N3Y1N1Y1N1Y1N1Y1N1Y1N1Y1N1Y1N1Y1N1Y1N1Y1",
     "N1Y1N1Y1N1Y1N1Y1N1Y1N1Y1N1Y1N1Y1N1Y1N1Y1N1Y1N1Y1N1Y1N1Y1N1Y1N1Y1N1Y1N1Y1N1Y1N1Y1N1Y1N1Y1N1",
     "Y1N1Y1N1Y1N1Y1N1Y1N1Y1N1Y1N1Y1N1Y1N1Y1N1Y1N1Y1N1Y1N1Y1N1Y1N1Y1N1Y1N1Y2N7Y1N1Y1N4Y1N12Y38N1",
     "Y1N5Y1N30995Y1N1Y1N1Y1N1Y1N1Y1N1Y1N1Y1N1Y1N1Y1N1Y1N1Y1N1Y1N1Y1N1Y1N1Y1N1Y1N1Y1N1Y1N1Y1N1Y1",
     "N1Y1N1Y1N1Y1N19Y1N1Y1N1Y1N1Y1N1Y1N1Y1N1Y1N1Y1N1Y1N1Y1N1Y1N1Y1N1Y1N1Y3N133Y1N1Y1N1Y1N1Y1N1",
     "Y1N1Y1N1Y3N1Y1N1Y1N1Y1N1Y1N1Y1N1Y1N1Y1N1Y1N1Y1N1Y1N1Y1N1Y1N1Y1N1Y1N1Y1N1Y1N1Y1N1Y1N1Y1N1Y1",
     "N1Y1N1Y1N1Y1N1Y1N1Y1N1Y1N1Y1N1Y1N1Y1N1Y1N1Y10N1Y1N1Y1N2Y1N1Y1N1Y1N1Y1N1Y1N4Y1N1Y1N2Y1N1Y3",
     "N1Y1N1Y1N1Y1N1Y1N1Y1N1Y1N1Y1N1Y1N1Y1N1Y1N5Y1N5Y1N1Y1N1Y1N1Y1N1Y1N1Y1N1Y1N1Y1N4Y1N1Y1N6Y1N1",
     "Y1N1Y1N1Y1N1Y1N24Y3N1Y1N1Y3N821Y43N1Y14N6Y80N20288Y7N12Y5N1065Y26N1229Y40N136Y36N155Y11N1",
     "Y15N1Y7N1Y2N451Y1N2Y3N1Y42N1Y9N1285Y51N3021Y32N21888Y32N26010Y26N26Y7N1Y18N26Y26N26Y4N1Y1",
     "N1Y7N1Y11N26Y26N26Y26N26Y26N26Y26N26Y26N26Y26N26Y26N26Y26N26Y28N28Y25N1Y6N26Y25N1Y6N26Y25",
     "N1Y6N26Y25N1Y6N26Y25N1Y6N1Y1N1844Y10N1Y20N6Y6N261Y62N2228Y34"]),
  (["math"],
    ["N43Y1N16Y3N31Y1N29Y1N1Y1N45Y1N4Y1N37Y1N31Y1N728Y3N2Y1N26Y2N2Y3N527Y3N6669Y1N27Y3N11Y1N3Y1",
     "N13Y1N14Y4N21Y5N11Y5N65Y13N4Y1N3Y2N4Y5N18Y1N4Y1N2Y10N1Y1N2Y6N6Y1N3Y2N2Y2N1Y3N1Y6N3Y14N1Y1",
     "N68Y24N1Y6N1Y2N4Y2N4Y32N1Y1N6Y2N14Y268N8Y4N20Y2N90Y1N30Y27N1Y1N24Y1N11Y7N445Y2N12Y10N4Y6N4",
     "Y2N2Y2N3Y5N14Y1N1Y1N2Y6N11Y8N5Y2N57Y1N1Y1N29Y4N9Y3N336Y64N256Y512N48Y21N2Y6N53212Y1N823Y6",
     "N1Y1N162Y1N16Y3N29Y1N1Y1N29Y1N1Y1N131Y1N6Y4N54291Y85N1Y71N1Y2N2Y1N2Y2N2Y4N1Y12N1Y1N1Y7N1",
     "Y65N1Y4N2Y8N1Y7N1Y28N1Y4N1Y5N1Y1N3Y7N1Y340N2Y292N2Y50N5632Y4N1Y27N1Y2N1Y1N2Y1N1Y10N1Y4N1Y1",
     "N1Y1N6Y1N4Y1N1Y1N1Y1N1Y3N1Y2N1Y1N2Y1N1Y1N1Y1N1Y1N1Y1N1Y2N1Y1N2Y4N1Y7N1Y4N1Y4N1Y1N1Y10N1Y17",
     "N5Y3N1Y5N1Y17N52Y2"]),
  (["nchar", "noncharactercodepoint"],
    ["N64976Y32N526Y2N65534Y2N65534Y2N65534Y2N65534Y2N65534Y2N65534Y2N65534Y2N65534Y2N65534Y2",
     "N65534Y2N65534Y2N65534Y2N65534Y2N65534Y2N65534Y2N65534Y2"]),
  (["pcm", "prependedconcatenationmark"],
    ["N1536Y6N215Y1N49Y1N384Y2N80Y1N67546Y1N15Y1"]),
  (["patsyn", "patternsyntax"],
    ["N33Y15N10Y7N26Y4N1Y1N26Y4N34Y7N1Y1N1Y2N1Y1N1Y2N4Y1N4Y1N3Y1N23Y1N31Y1N7960Y24N8Y15N2Y19N1",
     "Y10N305Y720N160Y630N30Y1132N512Y128N385Y3N4Y25N15Y1N52493Y2N261Y2"]),
  (["patws", "patternwhitespace"],
    ["N9Y5N18Y1N100Y1N8072Y2N24Y2"]),
  (["qmark", "quotationmark"],
    ["N34Y1N4Y1N131Y1N15Y1N8028Y8N25Y2N3591Y1N457Y4N13Y3N52769Y4N189Y1N4Y1N90Y2"]),
  (["ri", "regionalindicator"],
    ["N127462Y26"]),
  (["radical"],
    ["N11904Y26N1Y89N12Y214"]),
  (["sd", "softdotted"],
    ["N105Y2N196Y1N281Y1N30Y1N52Y1N20Y1N320Y1N98Y1N1Y1N6409Y1N51Y1N13Y1N3Y1N132Y1N157Y1N421Y1",
     "N214Y2N2866Y1N108453Y2N50Y2N50Y2N50Y2N50Y2N50Y2N50Y2N50Y2N50Y2N50Y2N50Y2N50Y2N50Y2N2182Y1",
     "N305Y2N26Y1"]),
  (["sterm", "sentenceterminal"],
    ["N33Y1N12Y1N16Y1N1353Y1N147Y3N180Y1N43Y3N246Y1N61Y1N1Y1N3Y2N293Y2N1764Y2N790Y1N4Y2N773Y1",
     "N198Y2N204Y1N5Y1N314Y2N354Y4N174Y2N2Y2N29Y2N188Y2N65Y2N956Y2N9Y3N3556Y1N13Y1N22Y2N429Y1",
     "N29948Y1N270Y2N227Y1N3Y1N382Y2N86Y2N95Y1N152Y2N147Y3N144Y2N249Y1N21094Y1N3Y2N169Y1N12Y1N16",
     "Y1N65Y1N2804Y2N1277Y5N44Y4N189Y2N117Y4N127Y3N129Y2N6Y1N16Y2N88Y2N1Y2N108Y1N417Y2N373Y2N5",
     "Y15N105Y2N249Y3N517Y1N1Y1N251Y2N87Y2N420Y2N692Y2N74Y2N19241Y2N133Y1N65Y2N11Y1N851Y1N19974",
     "Y1N7656Y1"]),
  (["term", "terminalpunctuation"],
    ["N33Y1N10Y1N1Y1N11Y2N3Y1N830Y1N8Y1N513Y1N57Y1N72Y1N14Y1N1Y3N180Y1N43Y11N1Y1N235Y2N54Y15N31",
     "Y1N261Y2N1268Y2N172Y1N4Y6N311Y2N789Y8N773Y1N124Y3N71Y2N157Y3N3Y1N39Y4N2Y2N314Y2N354Y4N174",
     "Y2N1Y3N29Y2N188Y5N62Y2N956Y2N9Y3N3556Y1N13Y1N4Y1N10Y1N1Y2N3Y2N428Y2N29947Y2N269Y3N227Y5",
     "N382Y2N86Y2N95Y1N151Y3N147Y3N127Y1N16Y2N249Y1N21092Y3N1Y4N169Y1N10Y1N1Y1N11Y2N3Y1N65Y1N2Y1",
     "N1082Y1N48Y1N1158Y1N199Y1N310Y2N152Y6N68Y6N89Y4N952Y5N44Y4N189Y7N112Y4N127Y3N129Y2N6Y1N16",
     "Y2N88Y5N108Y1N417Y3N12Y2N358Y4N3Y15N105Y2N249Y3N517Y1N1Y1N251Y2N87Y2N4Y2N414Y3N45Y1N645Y2",
     "N74Y2N1323Y5N17913Y2N133Y1N65Y3N10Y1N850Y2N19974Y1N7655Y4"]),
  (["uideo", "unifiedideograph"],
    ["N13312Y6592N64Y20992N23054Y2N1Y1N1Y2N10Y1N1Y1N1Y2N2Y3N67030Y42720N32Y4154N6Y222N2Y5762N14",
     "Y7473N5151Y4939N5Y4192"]),
  (["upper", "uppercase"],
    ["N65Y26N101Y23N1Y7N33Y1N1Y1N1Y1N1Y1N1Y1N1Y1N1Y1N1Y1N1Y1N1Y1N1Y1N1Y1N1Y1N1Y1N1Y1N1Y1N1Y1N1Y1",
     "N1Y1N1Y1N1Y1N1Y1N1Y1N1Y1N1Y1N1Y1N1Y1N1Y1N2Y1N1Y1N1Y1N1Y1N1Y1N1Y1N1Y1N1Y1N2Y1N1Y1N1Y1N1Y1N1",
     "Y1N1Y1N1Y1N1Y1N1Y1N1Y1N1Y1N1Y1N1Y1N1Y1N1Y1N1Y1N1Y1N1Y1N1Y1N1Y1N1Y1N1Y1N1Y1N1Y2N1Y1N1Y1N3Y2",
     "N1Y1N1Y2N1Y3N2Y4N1Y2N1Y3N3Y2N1Y2N1Y1N1Y1N1Y2N1Y1N2Y1N1Y2N1Y3N1Y1N1Y2N3Y1N7Y1N2Y1N2Y1N2Y1N1",
     "Y1N1Y1N1Y1N1Y1N1Y1N1Y1N1Y1N2Y1N1Y1N1Y1N1Y1N1Y1N1Y1N1Y1N1Y1N1Y1N2Y1N2Y1N1Y3N1Y1N1Y1N1Y1N1Y1",
     "N1Y1N1Y1N1Y1N1Y1N1Y1N1Y1N1Y1N1Y1N1Y1N1Y1N1Y1N1Y1N1Y1N1Y1N1Y1N1Y1N1Y1N1Y1N1Y1N1Y1N1Y1N1Y1N1",
     "Y1N1Y1N1Y1N7Y2N1Y2N2Y1N1Y4N1Y1N1Y1N1Y1N1Y1N289Y1N1Y1N3Y1N8Y1N6Y1N1Y3N1Y1N1Y2N1Y17N1Y9N35Y1",
     "N2Y3N3Y1N1Y1N1Y1N1Y1N1Y1N1Y1N1Y1N1Y1N1Y1N1Y1N1Y1N1Y1N5Y1N2Y1N1Y2N2Y51N48Y1N1Y1N1Y1N1Y1N1Y1",
     "N1Y1N1Y1N1Y1N1Y1N1Y1N1Y1N1Y1N1Y1N1Y1N1Y1N1Y1N1Y1N9Y1N1Y1N1Y1N1Y1N1Y1N1Y1N1Y1N1Y1N1Y1N1Y1N1",
     "Y1N1Y1N1Y1N1Y1N1Y1N1Y1N1Y1N1Y1N1Y1N1Y1N1Y1N1Y1N1Y1N1Y1N1Y1N1Y1N1Y1N1Y2N1Y1N1Y1N1Y1N1Y1N1Y1",
     "N1Y1N2Y1N1Y1N1Y1N1Y1N1Y1N1Y1N1Y1N1Y1N1Y1N1Y1N1Y1N1Y1N1Y1N1Y1N1Y1N1Y1N1Y1N1Y1N1Y1N1Y1N1Y1N1",
     "Y1N1Y1N1Y1N1Y1N1Y1N1Y1N1Y1N1Y1N1Y1N1Y1N1Y1N1Y1N1Y1N1Y1N1Y1N1Y1N1Y1N1Y1N1Y1N1Y1N1Y1N1Y1N1Y1",
     "N1Y1N1Y1N1Y1N1Y1N2Y38N2889Y38N1Y1N5Y1N722Y86N2202Y43N2Y3N320Y1N1Y1N1Y1N1Y1N1Y1N1Y1N1Y1N1Y1",
     "N1Y1N1Y1N1Y1N1Y1N1Y1N1Y1N1Y1N1Y1N1Y1N1Y1N1Y1N1Y1N1Y1N1Y1N1Y1N1Y1N1Y1N1Y1N1Y1N1Y1N1Y1N1Y1N1",
     "Y1N1Y1N1Y1N1Y1N1Y1N1Y1N1Y1N1Y1N1Y1N1Y1N1Y1N1Y1N1Y1N1Y1N1Y1N1Y1N1Y1N1Y1N1Y1N1Y1N1Y1N1Y1N1Y1",
     "N1Y1N1Y1N1Y1N1Y1N1Y1N1Y1N1Y1N1Y1N1Y1N1Y1N1Y1N1Y1N1Y1N1Y1N1Y1N1Y1N1Y1N1Y1N1Y1N1Y1N1Y1N1Y1N9",
     "Y1N1Y1N1Y1N1Y1N1Y1N1Y1N1Y1N1Y1N1Y1N1Y1N1Y1N1Y1N1Y1N1Y1N1Y1N1Y1N1Y1N1Y1N1Y1N1Y1N1Y1N1Y1N1Y1",
     "N1Y1N1Y1N1Y1N1Y1N1Y1N1Y1N1Y1N1Y1N1Y1N1Y1N1Y1N1Y1N1Y1N1Y1N1Y1N1Y1N1Y1N1Y1N1Y1N1Y1N1Y1N1Y1N1",
     "Y1N1Y1N1Y1N1Y1N9Y8N8Y6N10Y8N8Y8N8Y6N11Y1N1Y1N1Y1N1Y1N8Y8N72Y4N12Y4N12Y4N12Y5N11Y4N262Y1N4",
     "Y1N3Y3N2Y3N2Y1N3Y5N6Y1N1Y1N1Y1N1Y4N2Y4N10Y2N5Y1N26Y16N19Y1N818Y26N1840Y48N48Y1N1Y3N2Y1N1Y1",
     "N1Y1N1Y4N1Y1N2Y1N8Y3N1Y1N1Y1N1Y1N1Y1N1Y1N1Y1N1Y1N1Y1N1Y1N1Y1N1Y1N1Y1N1Y1N1Y1N1Y1N1Y1N1Y1N1",
     "Y1N1Y1N1Y1N1Y1N1Y1N1Y1N1Y1N1Y1N1Y1N1Y1N1Y1N1Y1N1Y1N1Y1N1Y1N1Y1N1Y1N1Y1N1Y1N1Y1N1Y1N1Y1N1Y1",
     "N1Y1N1Y1N1Y1N1Y1N1Y1N1Y1N1Y1N1Y1N1Y1N8Y1N1Y1N4Y1N31053Y1N1Y1N1Y1N1Y1N1Y1N1Y1N1Y1N1Y1N1Y1N1",
     "Y1N1Y1N1Y1N1Y1N1Y1N1Y1N1Y1N1Y1N1Y1N1Y1N1Y1N1Y1N1Y1N1Y1N19Y1N1Y1N1Y1N1Y1N1Y1N1Y1N1Y1N1Y1N1",
     "Y1N1Y1N1Y1N1Y1N1Y1N1Y1N135Y1N1Y1N1Y1N1Y1N1Y1N1Y1N1Y1N3Y1N1Y1N1Y1N1Y1N1Y1N1Y1N1Y1N1Y1N1Y1N1",
     "Y1N1Y1N1Y1N1Y1N1Y1N1Y1N1Y1N1Y1N1Y1N1Y1N1Y1N1Y1N1Y1N1Y1N1Y1N1Y1N1Y1N1Y1N1Y1N1Y1N1Y1N1Y1N10",
     "Y1N1Y1N1Y2N1Y1N1Y1N1Y1N1Y1N4Y1N1Y1N2Y1N1Y1N3Y1N1Y1N1Y1N1Y1N1Y1N1Y1N1Y1N1Y1N1Y1N1Y1N1Y5N1Y5",
     "N1Y1N1Y1N1Y1N1Y1N1Y1N1Y1N1Y1N1Y4N1Y1N6Y1N5Y1N1Y1N28Y1N22315Y26N1221Y40N136Y36N156Y11N1Y15",
     "N1Y7N1Y2N1770Y51N3053Y32N21888Y32N26016Y26N26Y26N26Y26N26Y1N1Y2N2Y1N2Y2N2Y4N1Y8N26Y26N26Y2",
     "N1Y4N2Y8N1Y7N27Y2N1Y4N1Y5N1Y1N3Y7N27Y26N26Y26N26Y26N26Y26N26Y26N26Y26N30Y25N33Y25N33Y25N33",
     "Y25N33Y25N33Y1N4405Y34N2062Y26N6Y26N6Y26"]),
  (["vs", "variationselector"],
    ["N6155Y3N1Y1N58864Y16N852720Y240"]),
  (["wspace", "whitespace", "space"],
    ["N9Y5N18Y1N100Y1N26Y1N5599Y1N2431Y11N29Y2N5Y1N47Y1N4000Y1"]),
  (["xidc", "xidcontinue"],
    ["N48Y10N7Y26N4Y1N1Y26N47Y1N10Y1N1Y1N2Y1N5Y23N1Y31N1Y458N4Y12N14Y5N7Y1N1Y1N17Y117N1Y2N3Y3N1",
     "Y1N6Y5N1Y1N1Y20N1Y83N1Y139N1Y5N2Y166N1Y38N2Y1N6Y41N8Y45N1Y1N1Y2N1Y2N1Y1N8Y27N4Y4N29Y11N5",
     "Y74N4Y102N1Y8N2Y10N1Y19N2Y1N16Y59N2Y101N14Y54N4Y1N2Y1N2Y46N18Y28N4Y11N5Y24N1Y6N9Y74N1Y129",
     "N2Y10N1Y19N1Y8N2Y2N2Y22N1Y7N1Y1N3Y4N2Y9N2Y2N2Y4N8Y1N4Y2N1Y5N2Y12N10Y1N1Y1N2Y3N1Y6N4Y2N2Y22",
     "N1Y7N1Y2N1Y2N1Y2N2Y1N1Y5N4Y2N2Y3N3Y1N7Y4N1Y1N7Y16N11Y3N1Y9N1Y3N1Y22N1Y7N1Y2N1Y5N2Y10N1Y3N1",
     "Y3N2Y1N15Y4N2Y10N9Y7N1Y3N1Y8N2Y2N2Y22N1Y7N1Y2N1Y5N2Y9N2Y2N2Y3N7Y3N4Y2N1Y5N2Y10N1Y1N16Y2N1",
     "Y6N3Y3N1Y4N3Y2N1Y1N1Y2N3Y2N3Y3N3Y12N4Y5N3Y3N1Y4N2Y1N6Y1N14Y10N16Y13N1Y3N1Y23N1Y16N2Y9N1Y3",
     "N1Y4N7Y2N1Y3N2Y1N2Y4N2Y10N16Y4N1Y8N1Y3N1Y23N1Y10N1Y5N2Y9N1Y3N1Y4N7Y2N6Y2N1Y4N2Y10N1Y3N12",
     "Y13N1Y3N1Y51N1Y3N1Y5N5Y4N7Y5N2Y10N10Y6N1Y3N1Y18N3Y24N1Y9N1Y1N2Y7N3Y1N4Y6N1Y1N1Y8N6Y10N2Y2",
     "N13Y58N5Y15N1Y10N39Y2N1Y1N1Y5N1Y24N1Y1N1Y23N2Y5N1Y1N1Y7N1Y10N2Y4N32Y1N23Y2N6Y10N11Y1N1Y1N1",
     "Y1N4Y10N1Y36N4Y20N1Y18N1Y36N9Y1N57Y74N6Y78N2Y38N1Y1N5Y1N2Y43N1Y333N1Y4N2Y7N1Y1N1Y4N2Y41N1",
     "Y4N2Y33N1Y4N2Y7N1Y1N1Y4N2Y15N1Y57N1Y4N2Y67N2Y3N9Y9N14Y16N16Y86N2Y6N3Y620N2Y17N1Y26N5Y75N3",
     "Y11N7Y22N9Y22N11Y20N12Y13N1Y3N1Y2N12Y84N3Y1N4Y2N2Y10N33Y3N1Y11N6Y89N7Y43N5Y70N10Y31N1Y12N4",
     "Y12N10Y40N2Y5N11Y44N4Y26N6Y11N37Y28N4Y63N1Y29N2Y11N6Y10N13Y1N8Y14N1Y16N49Y77N3Y10N17Y9N12",
     "Y116N12Y56N8Y10N3Y49N2Y9N7Y43N2Y3N16Y3N1Y39N5Y534N2Y6N2Y38N2Y6N2Y8N1Y1N1Y1N1Y1N1Y31N2Y53N1",
     "Y7N1Y1N3Y3N1Y7N3Y4N2Y6N4Y13N5Y3N1Y7N66Y2N19Y1N28Y1N13Y1N16Y13N51Y13N4Y1N3Y12N17Y1N4Y1N2Y10",
     "N1Y1N2Y6N6Y1N1Y1N1Y1N1Y16N2Y4N5Y5N4Y1N17Y41N2679Y229N6Y9N12Y38N1Y1N5Y1N2Y56N7Y1N15Y24N9Y7",
     "N1Y7N1Y7N1Y7N1Y7N1Y7N1Y7N1Y7N1Y32N517Y3N25Y15N1Y5N2Y5N4Y86N2Y2N2Y3N1Y90N1Y4N5Y43N1Y94N17",
     "Y32N48Y16N512Y6592N64Y22157N67Y46N2Y269N3Y28N20Y48N4Y10N1Y115N37Y9N2Y103N2Y64N5Y2N1Y1N1Y5",
     "N24Y54N4Y1N19Y52N12Y70N10Y10N6Y24N3Y1N1Y49N2Y36N12Y29N3Y65N14Y11N6Y31N1Y55N9Y14N2Y10N6Y23",
     "N3Y73N24Y3N2Y16N2Y5N10Y6N2Y6N2Y6N9Y7N1Y7N1Y43N1Y14N6Y123N1Y2N2Y10N6Y11172N12Y23N4Y49N8452",
     "Y366N2Y106N38Y7N12Y5N5Y12N1Y13N1Y5N1Y1N1Y2N1Y2N1Y108N33Y139N6Y218N18Y64N2Y54N40Y10N6Y16N16",
     "Y16N3Y2N24Y3N33Y1N1Y1N3Y1N1Y1N1Y1N1Y1N1Y126N19Y10N7Y26N4Y1N1Y26N11Y89N3Y6N2Y6N2Y6N2Y3N35",
     "Y12N1Y26N1Y19N1Y2N1Y15N2Y14N34Y123N69Y53N136Y1N130Y29N3Y49N15Y1N31Y32N13Y30N5Y43N5Y30N2Y36",
     "N4Y8N1Y5N42Y158N2Y10N6Y36N4Y36N4Y40N8Y52N12Y11N1Y15N1Y7N1Y2N1Y11N1Y15N1Y7N1Y2N67Y311N9Y22",
     "N10Y8N24Y6N1Y42N1Y9N69Y6N2Y1N1Y44N1Y2N3Y1N2Y23N10Y23N9Y31N65Y19N1Y2N10Y22N10Y26N70Y56N6Y2",
     "N64Y4N1Y2N5Y8N1Y3N1Y29N2Y3N4Y1N32Y29N3Y29N35Y8N1Y30N25Y54N10Y22N10Y19N13Y18N110Y73N55Y51",
     "N13Y51N13Y40N8Y10N326Y42N1Y2N3Y2N75Y32N10Y1N8Y33N31Y22N42Y21N27Y23N9Y71N31Y16N9Y60N7Y1N13",
     "Y25N7Y10N6Y53N1Y10N4Y4N8Y36N2Y1N9Y69N4Y4N1Y13N1Y1N35Y18N1Y37N6Y4N62Y7N1Y1N1Y4N1Y15N1Y10N7",
     "Y59N5Y10N6Y4N1Y8N2Y2N2Y22N1Y7N1Y2N1Y5N1Y10N2Y2N2Y3N2Y1N6Y1N5Y7N2Y7N3Y5N139Y75N5Y10N4Y4N30",
     "Y70N1Y1N8Y10N166Y54N2Y9N23Y6N34Y65N3Y1N11Y10N38Y57N7Y10N54Y27N2Y15N4Y10N6Y7N185Y59N101Y74",
     "N21Y8N2Y1N2Y8N1Y2N1Y30N1Y2N2Y9N12Y10N70Y8N2Y46N2Y8N1Y2N27Y63N8Y1N8Y74N3Y1N18Y73N263Y9N1Y45",
     "N1Y9N15Y10N24Y30N2Y22N1Y14N73Y7N1Y2N1Y44N3Y1N1Y2N1Y9N8Y10N6Y6N1Y2N1Y37N1Y2N1Y6N7Y10N310Y23",
     "N9Y17N1Y41N3Y5N13Y10N86Y1N79Y922N102Y111N17Y196N2636Y97N15Y1072N16Y22N4010Y583N8633Y569N7",
     "Y31N1Y10N6Y79N1Y10N6Y30N2Y5N11Y55N9Y4N12Y10N9Y21N5Y19N688Y64N128Y75N4Y57N7Y17N64Y2N1Y2N11",
     "Y2N14Y6136N8Y1238N42Y9N8935Y4N1Y7N1Y2N1Y291N15Y1N29Y3N2Y1N14Y4N8Y396N2308Y107N5Y13N3Y9N7",
     "Y10N3Y2N4705Y46N2Y23N542Y5N3Y6N8Y8N2Y7N30Y4N148Y3N443Y85N1Y71N1Y2N2Y1N2Y2N2Y4N1Y12N1Y1N1Y7",
     "N1Y65N1Y4N2Y8N1Y7N1Y28N1Y4N1Y5N1Y1N3Y7N1Y340N2Y25N1Y25N1Y31N1Y25N1Y31N1Y25N1Y31N1Y25N1Y31",
     "N1Y25N1Y8N2Y50N512Y55N4Y50N8Y1N14Y1N22Y5N1Y15N1104Y31N6Y6N213Y7N1Y17N2Y7N1Y2N1Y5N5Y62N33Y1",
     "N112Y45N3Y14N2Y10N4Y1N321Y31N17Y58N470Y42N742Y7N1Y4N1Y2N1Y15N1Y197N11Y7N41Y76N4Y10N1190Y4",
     "N1Y27N1Y2N1Y1N2Y1N1Y10N1Y4N1Y1N1Y1N6Y1N4Y1N1Y1N1Y1N1Y3N1Y2N1Y1N2Y1N1Y1N1Y1N1Y1N1Y1N1Y2N1Y1",
     "N2Y4N1Y7N1Y4N1Y4N1Y1N1Y10N1Y17N5Y3N1Y5N1Y17N3380Y10N1030Y42720N32Y4154N6Y222N2Y5762N14",
     "Y7473N3103Y542N1506Y4939N5Y4192N712016Y240"]),
  (["xids", "xidstart"],
    ["N65Y26N6Y26N47Y1N10Y1N4Y1N5Y23N1Y31N1Y458N4Y12N14Y5N7Y1N1Y1N129Y5N1Y2N3Y3N1Y1N6Y1N1Y3N1Y1",
     "N1Y20N1Y83N1Y139N8Y166N1Y38N2Y1N6Y41N71Y27N4Y4N45Y43N35Y2N1Y99N1Y1N15Y2N7Y2N10Y3N2Y1N16Y1",
     "N1Y30N29Y89N11Y1N24Y33N9Y2N4Y1N5Y22N4Y1N9Y1N3Y1N23Y25N7Y11N5Y24N1Y6N17Y42N58Y54N3Y1N18Y1N7",
     "Y10N15Y16N4Y8N2Y2N2Y22N1Y7N1Y1N3Y4N3Y1N16Y1N13Y2N1Y3N14Y2N10Y1N8Y6N4Y2N2Y22N1Y7N1Y2N1Y2N1",
     "Y2N31Y4N1Y1N19Y3N16Y9N1Y3N1Y22N1Y7N1Y2N1Y5N3Y1N18Y1N15Y2N23Y1N11Y8N2Y2N2Y22N1Y7N1Y2N1Y5N3",
     "Y1N30Y2N1Y3N15Y1N17Y1N1Y6N3Y3N1Y4N3Y2N1Y1N1Y2N3Y2N3Y3N3Y12N22Y1N52Y8N1Y3N1Y23N1Y16N3Y1N26",
     "Y3N2Y1N2Y2N30Y1N4Y8N1Y3N1Y23N1Y10N1Y5N3Y1N31Y2N1Y2N15Y2N17Y9N1Y3N1Y41N2Y1N16Y1N5Y3N8Y3N24",
     "Y6N5Y18N3Y24N1Y9N1Y1N2Y7N58Y48N1Y1N13Y7N58Y2N1Y1N1Y5N1Y24N1Y1N1Y10N1Y1N10Y1N2Y5N1Y1N21Y4",
     "N32Y1N63Y8N1Y36N27Y5N115Y43N20Y1N16Y6N4Y4N3Y1N3Y2N7Y3N4Y13N12Y1N17Y38N1Y1N5Y1N2Y43N1Y333N1",
     "Y4N2Y7N1Y1N1Y4N2Y41N1Y4N2Y33N1Y4N2Y7N1Y1N1Y4N2Y15N1Y57N1Y4N2Y67N37Y16N16Y86N2Y6N3Y620N2Y17",
     "N1Y26N5Y75N3Y11N7Y18N13Y19N14Y18N14Y13N1Y3N15Y52N35Y1N4Y1N67Y89N7Y41N1Y1N5Y70N10Y31N49Y30",
     "N2Y5N11Y44N4Y26N54Y23N9Y53N82Y1N93Y47N17Y8N54Y30N13Y2N10Y44N26Y36N41Y3N10Y36N2Y9N7Y43N2Y3",
     "N41Y4N1Y6N1Y2N3Y1N5Y192N64Y278N2Y6N2Y38N2Y6N2Y8N1Y1N1Y1N1Y1N1Y31N2Y53N1Y7N1Y1N3Y3N1Y7N3Y4",
     "N2Y6N4Y13N5Y3N1Y7N116Y1N13Y1N16Y13N101Y1N4Y1N2Y10N1Y1N2Y6N6Y1N1Y1N1Y1N1Y16N2Y4N5Y5N4Y1N17",
     "Y41N2679Y229N6Y4N3Y2N12Y38N1Y1N5Y1N2Y56N7Y1N16Y23N9Y7N1Y7N1Y7N1Y7N1Y7N1Y7N1Y7N1Y7N550Y3N25",
     "Y9N7Y5N2Y5N4Y86N6Y3N1Y90N1Y4N5Y43N1Y94N17Y32N48Y16N512Y6592N64Y22157N67Y46N2Y269N3Y16N10Y2",
     "N20Y47N16Y31N2Y80N39Y9N2Y103N2Y64N5Y2N1Y1N1Y5N24Y16N1Y3N1Y4N1Y23N29Y52N14Y50N62Y6N3Y1N1Y2",
     "N11Y28N10Y23N25Y29N7Y47N28Y1N16Y5N1Y10N10Y5N1Y41N23Y3N1Y8N20Y23N3Y1N3Y50N1Y1N3Y2N2Y5N2Y1N1",
     "Y1N24Y3N2Y11N7Y3N12Y6N2Y6N2Y6N9Y7N1Y7N1Y43N1Y14N6Y115N29Y11172N12Y23N4Y49N8452Y366N2Y106",
     "N38Y7N12Y5N5Y1N1Y10N1Y13N1Y5N1Y1N1Y2N1Y2N1Y108N33Y139N6Y218N18Y64N2Y54N40Y10N119Y1N1Y1N3Y1",
     "N1Y1N1Y1N1Y1N1Y126N36Y26N6Y26N11Y56N2Y31N3Y6N2Y6N2Y6N2Y3N35Y12N1Y26N1Y19N1Y2N1Y15N2Y14N34",
     "Y123N69Y53N267Y29N3Y49N47Y32N13Y30N5Y38N10Y30N2Y36N4Y8N1Y5N42Y158N18Y36N4Y36N4Y40N8Y52N12",
     "Y11N1Y15N1Y7N1Y2N1Y11N1Y15N1Y7N1Y2N67Y311N9Y22N10Y8N24Y6N1Y42N1Y9N69Y6N2Y1N1Y44N1Y2N3Y1N2",
     "Y23N10Y23N9Y31N65Y19N1Y2N10Y22N10Y26N70Y56N6Y2N64Y1N15Y4N1Y3N1Y29N42Y29N3Y29N35Y8N1Y28N27",
     "Y54N10Y22N10Y19N13Y18N110Y73N55Y51N13Y51N13Y36N348Y42N6Y2N78Y29N10Y1N8Y22N42Y18N46Y21N27",
     "Y23N12Y53N57Y2N2Y1N13Y45N32Y25N26Y36N29Y1N2Y1N8Y35N3Y1N12Y48N14Y4N21Y1N1Y1N35Y18N1Y25N19Y2",
     "N63Y7N1Y1N1Y4N1Y15N1Y10N7Y47N38Y8N2Y2N2Y22N1Y7N1Y2N1Y5N3Y1N18Y1N12Y5N158Y53N18Y4N20Y3N30",
     "Y48N20Y2N1Y1N184Y47N41Y4N36Y48N20Y1N59Y43N13Y1N71Y27N37Y7N185Y44N116Y64N31Y8N2Y1N2Y8N1Y2N1",
     "Y24N15Y1N1Y1N94Y8N2Y39N16Y1N1Y1N28Y1N10Y40N7Y1N21Y1N11Y46N19Y1N18Y73N263Y9N1Y37N17Y1N49Y30",
     "N112Y7N1Y2N1Y38N21Y1N25Y6N1Y2N1Y32N14Y1N327Y19N15Y1N1Y13N1Y34N124Y1N79Y922N102Y111N17Y196",
     "N2636Y97N15Y1072N17Y6N4025Y583N8633Y569N7Y31N17Y79N17Y30N18Y48N16Y4N31Y21N5Y19N688Y64N128",
     "Y75N5Y1N66Y13N64Y2N1Y1N28Y6136N8Y1238N42Y9N8935Y4N1Y7N1Y2N1Y291N15Y1N29Y3N2Y1N14Y4N8Y396",
     "N2308Y107N5Y13N3Y9N7Y10N5990Y85N1Y71N1Y2N2Y1N2Y2N2Y4N1Y12N1Y1N1Y7N1Y65N1Y4N2Y8N1Y7N1Y28N1",
     "Y4N1Y5N1Y1N3Y7N1Y340N2Y25N1Y25N1Y31N1Y25N1Y31N1Y25N1Y31N1Y25N1Y31N1Y25N1Y8N1844Y31N6Y6N261",
     "Y62N146Y45N10Y7N16Y1N321Y30N18Y44N484Y28N756Y7N1Y4N1Y2N1Y15N1Y197N59Y68N7Y1N1204Y4N1Y27N1",
     "Y2N1Y1N2Y1N1Y10N1Y4N1Y1N1Y1N6Y1N4Y1N1Y1N1Y1N1Y3N1Y2N1Y1N2Y1N1Y1N1Y1N1Y1N1Y1N1Y2N1Y1N2Y4N1",
     "Y7N1Y4N1Y4N1Y1N1Y10N1Y17N5Y3N1Y5N1Y17N4420Y42720N32Y4154N6Y222N2Y5762N14Y7473N3103Y542",
     "N1506Y4939N5Y4192"])]

end ScriptStyle.Characters
