import Conform.Text.CharSet
import Conform.Text.Words

/-!
# Mapping characters of domain names

What becomes of each character of a domain name before the name is checked: it stays, it is left
out, other characters take its place, or it is refused.
-/

namespace Conform.Domain

open Text

/-- The characters beyond ASCII that are left out. -/
def ignored : CharSet :=
  .ofTable [
    "gRAzXAfiLBckHBdHEdaPAdGEFFgkYAczmPPjFAgEActoXDhwXHbtljHjF"]

/-- The runs of characters that a single character replaces, with the signed distance to it. -/
def replacedRuns : List (CodeRange × Nat) :=
  gapRuns 0 (tableNumbers [
    "gEAjVJAfPHBjVBAchQDAkLAAfTFWcMBGcMbHACBACBACBACBACBACBACBACBACBACBACBACBACBACBACBACBACBACBAC",
    "BACBACBACBACBACFACBACCACBACBACDACBACBACBACCACBACBACBACBACBACBACBACBACBACBACBACBACBACBACBACBA",
    "CBACBACBACBACBACBACBAjHAACBACBACBAuPBAqEAACBACBApWAACBBpUAACCAgCAApOAApQAACBApUAApYBAqGAAqCA",
    "ACDAqGAAqKBAqMAACBACBACBAqUAACBAqUCACBAqUAACBBqSAACBACBAqWAACDACQACBACBACBACBACBACBACBACCACB",
    "ACBACBACBACBACBACBACBACFACBAhLAAeHAACBACBACBACBACBACBACBACBACBACBACBACBACBACBACBACBACBACBACB",
    "ACBAjZBACBACBACBACBACBACBACBACBACHAbfyKAACBAmNAAbfyECACBAoZAAfIAAfMAACBACBACBACBACdTAbsXAAfT",
    "AAbsXAAbsJAAeNAAeLAAeBAAbsHAAbsFbNAjPAAbwJAAbvXAAbvPAAgBdNBeXBAdRBAiYbQACBACBAoJBACHAcmFAAiY",
    "GAcYAAcdJACcWBAeYBBeWBQcMBIcMbJAQAAcHAAbXAAZAALAARAAbDAAbRBACBACBACBACBACBACBACBACBACBACBACB",
    "ACBAeDAAdRAAdPBAePAAeXBACBAeDAACCCjZAPgEAbFcMbWACBACBACBACBACBACBACBACBACBACBACBACBACBACBACB",
    "ACBACJACBACBACBACBACBACBACBACBACBACBACBACBACBACBACBACBACBACBACBACBACBACBACBACBACBACBACBAbEAA",
    "CBACBACBACBACBACBACCACBACBACBACBACBACBACBACBACBACBACBACBACBACBACBACBACBACBACBACBACBACBACBACB",
    "ACBACBACBACBACBACBACBACBACBACBACBACBACBACBACBACBACBACBACBACBACBACBACBACCbLdSdrPABpNbLvmUBAvm",
    "UFAvmUbUAcLbdJFPdfUAskPAAskNAAsjVABsjRAAsjTAAsjFAAshJAAeaiWAACGbQixJCCixJeEAvuZAAvkVAAvvBBBv",
    "vBAAusFAHvvBBAvvDAAunRAAvvFAAvvDABvvBAAvuZAAvwTABukTAAfFAAvwZABvwXAAukNABukLAAvxBBAvwXAAvwVA",
    "AvfVAAvwVAAulPABeTAAvxBABvwVAAePAAukBAAvwZAAeFACtlLABtkDAAvyNAAvxXABvxTABtmDAAtlDABtkVNAtcVb",
    "IAurHAAwdLAAurFAAvsTAAuqVAAwdNAAuqTAAuqRAAuqLACuqHAAdJAAumNAAuqHAAcVAAumPAAuqFAAuqJADuqHAAuq",
    "DABupLAAvgDABupDAAlZABupFAAweBACupBAAtsNcMACBACBACBACBACBACBACBACBACBACBACBACBACBACBACBACBAC",
    "BACBACBACBACBACBACBACBACBACBACBACBACBACBACBACBACBACBACBACBACBACBACBACBACBACBACBACBACBACBACBA",
    "CBACBACBACBACBACBACBACBACBACBACBACBACBACBACBACBACBACBACBACBACBACBACBACBACBACBACBACGAeLCAwnTB",
    "ACBACBACBACBACBACBACBACBACBACBACBACBACBACBACBACBACBACBACBACBACBACBACBACBACBACBACBACBACBACBAC",
    "BACBACBACBACBACBACBACBACBACBACBACBACBACBACBACBACBACJHPIFPKHPIHPIFPLAPBAPBAPBAPIHPBAvaVBAvaXB",
    "AvaZBAvbBBAuyZBAuzBBAuzDcGBPAAfRAAvgNCAvfTJAgPAAvhNAAgPAAvhPHAvkNEBPAAhRAAviTHAvjHEBPAAiPAAv",
    "hRAANCAxxLIAjVAAviVAAjRAAviVEAydRAAydTAAydVAAydXAAydZAAyeBAAyeDAAyeFAAyeHAAyeJAAyeLGABbDAyhH",
    "bVAykZQAylBAAygTCFylBAAymFAAbfIAAykZABymRAAyhLAJymHAAynLAAbeCAAymFABynXBAyjTAAyjNAAyiVAAyiFA",
    "AwxHAAyjPADyjLAAyjJAByjFdXAysJEAxfZCBysRAAysTAAysVAAysXAAyeHAAysZAAytBAAysXAAysZBAysZDCytDAA",
    "ytFAAytHGAytFBAwgFBAytNBAyuVAAylNAByvRBAyvRAByvTAAcEAAyvJAAyvHADutLAAywDCAwiPAAwjRAAwjTAAwiV",
    "AAqCEAyxLAByxNAByxHWAyzDDAyyLEAyyRCAyzVABzaPAAyzZAAzaJDAyzREAyzXCAzbBABzbVAAzbFDACqFBjtMlXIb",
    "bkNcZZbbnLAZbbpLAAbbvFcrTbVdSbWACBAbfuJAAlhJAAbftDCACBACBACBAbfxFAAbfuVAAbfxLAAbfxJBACCACGAb",
    "hjVAAbhiZABbfzXAACBACBACBACBACBACBACBACBACBACBACBACBACBACBACBACBACBACBACBACBACBACBACBACBACBA",
    "CBACBACBACBACBACBACBACBACBACBACBACBACBACBACBACBACBACBACBACBACBACBACBACBACIACBACEACeUAbBlRAbu",
    "iUdFAdhiUMAxmMAAxpMAAxqMAAxrCAAxtAAAxwIAAxwUAAxyGAAyaEAAzxSAAbaaOAAbaaYAAbacQAAbaeCAAbafQAAb",
    "ajQAAbalEAAbalYAAbaxUAAbbeYAAbbhAAAbbhIAAbbjOAAbbkEAAbbmEAAbbnCAAbboYAAbbsWAAbbuEAAbbwEAAbec",
    "GAAbehSAAbfrAAAbfsSAAbftGAAbfuAAAbfvIAAbgbCAAbhlSAAbhpIAAbhyMAAbiaEAAbibOAAbidEAAbihGAAbihKA",
    "AbjjEAAbjjWAAbjkSAAbjlQAAbjuMAAbjvAAAbjvIAAbkeGAAbkeYAAbkfWAAbkgKAAbklAAAbkmGAAbknOAAbktQAAb",
    "mmGAAbmpSAAbmrGAAbowCAAbowKAAbpcSAAbpdWAAbpeUAAbpgIAAbpjGAAbpjOAAbqeAAAbqfUAAbqiEAAbtiGAAbtn",
    "GAAbtoYAAbttIAAbtvCAAbtvSAAbtwEAAbuaCAAbuaKAAbucUAAbxhSAAbyqAAAbyqWAAbyrEAAbyrKAAbyrYAAbytGA",
    "AbytIAAbyzMAAbzqAAAbzqIAAcaqIAAcarAAAcauUAAcavGAAcavWAAcawKAAcbdIAAcbdUAAcbvGAAcbvSAAcbzKAAc",
    "caQAAcceEAAccwIAAccwUAAccyAAAcdxCAAcegSAAcehCAAcevAAAcfbQAAcffCAAcgiCAAcgsGAAcikIAAcimIAAciq",
    "QAAciuMAAcizQAAcjaKAAcjaUAAcjdGAAcjjAAAcjjSAAckkGAAckkSAAcklIAAcklYAAcknCAAckoEAAckoKAAckuKA",
    "AckuQAAckvAAAcnsKAAcnuQAAcpeQAAcpfMAAcphEAAcqcWAAcqdUAAcqjEAAcqmQAAcseEAAcsfGAAcsgIAAcsiYAAc",
    "slSAActaYAActbUAActgWAActzWAAcucEAAcusEAAcutSAAcuuAAAcvkWAAcvyYAAcwiMAAcwiWAAcwjEAAczcYAAczd",
    "OAAczpMAAdabGAAdabKAAdaeYAAdamYAAdanWAAdaoCAAdaoOAAdawAAAdayOAAdayYAAdazYAAdbmSAAdbqOAAdbqUA",
    "AdceUAAdceYAAdcgIAAdczQAAdddGAAdddSAAddjAAAddjSAAddjWAAddkOAAddmUAAderCAAdfvUAAdfwMAAdfzIAAd",
    "gaYAAdgbMAAdgcEAAdgcKAAdgfKAAdgfQAAdggWAAdghEAAdgiCAAdgkCAAdglEAAdglSAAdgqEAAdgrGAAdgrMbQAbk",
    "gTBAbkfVbZAcTBAbanYABbaoCjMByjXAAxwZAAyjZABxwZACykDAFxxBAAyjBACykRAAyiVAJykTAUyeTBBymJABxyTA",
    "AxyNAAxyLAAxyDAAxxXAAxxVAAymLAAxxRAAxxPABymPAAymNABymLAAymFAAymDAEymBAAylXAAylRAAykZAAykNAAy",
    "kFABxxPACyjPABygJAAygFAByfPAAyfNAAyeVAAyeRDAvnWAAvyOAAvoKAAbcgAAAvoIAAvqYAAvoGAAbzfEAAvuCAAv",
    "pCAAvnEAAbdyUAAbclWAAwbEgIAbaoCAAbhmSAAbmvIAAcdnCYAzhFABzhDACzhBAAzgZABzgXAEzgVAAdocAAAdroKA",
    "AdthOAAdwtYAAdynCAAeagGAAedsQAAehfAAAeiyEAAemkOAAeodSAAepwWAAerqAAAetjECAeigIBAuvOAAvgGAAuwC",
    "AAbbnSAAvgQAAxkQAAuvIAAxkIAAvcCAAyuIAAbntSAAbuwMAAbrrKAAbnvYAAcudYAAbbsAAAbmwWAAbopMAAbntEAA",
    "cbnQAAzjEAAbwkEAAcqfEAAcbpSAAyiIAAcbzAAAbylUAAbdkYAActbEAAxdQAAywIAAbsdUAAcyuSAAvoAAAxlUAAbq",
    "zOAAutOAAuwEAAutMAAbgtQAAzfQAAyrKAAbezYAAbewCAAbzrIAAvlWAAcqgGAAysWAAbdcQbFAbqXAAbqVAAbqTAAb",
    "qRABbqPAAbqNAAbqLAAbqJAAbqHAAbqFAAbqDAAbqBAAbpZAAbpXAAbpVAAbpTAAbpPAAbpNAAbpLAFbpJAAbpFAAbpB",
    "AAboXAAboTAEboPAAboNAAboLAFboJADboHbrqVACBACBACBACBACBACBACBACBACBACBACBACBACBACBACBACBACBAC",
    "BACBACBACBACBACTACBACBACBACBACBACBACBACBACBACBACBACBACBACBAesyLAAesyJfCACBACBACBACBACBACBACD",
    "ACBACBACBACBACBACBACBACBACBACBACBACBACBACBACBACBACBACBACBACBACBACBACBACBACBACBACBACBACBACBAC",
    "BABIACBACBAeanVAACBACBACBACBACEACBAevcHCACBACDACBACBACBACBACBACBACBACBACBACBAeveLAAevfHAAeve",
    "ZAAeveFAAeveLBAevaPAAevcLAAevaVAActKAACBACBACBACBACBACBACBACBAdRAAeveJAAearVAACBACBAevhDAACB",
    "ACBACBACBACBACBACBACBAevxXUAewwHAAewxPAAewxLAAewwRAACCAewiZAAewfRbhIAdeVAAcXAAexyZAAZJAexxFG",
    "dBekzNbdgQAdeiXAAegqBAAdclRAAddzHAAearLAAezjXAAevbTAAcpsVAAcpsXAAeqzFAAdaeRAAetvZAAeraDAAekl",
    "HAAduyRAAdobJAAdiyZAAdhvXAAdgxNAAdbeDAAeejJAAecaLAAdzeVAAdwxLAAdknDAAdanTAAcubXAAezfLAAevmBA",
    "AedqFAAdygRAAdjbNAAcqyDAAeoaJAAdzyBAAdjjFAAdgqPAAejwXAAdmjJAAdhpVAAemxVAAegqLAAebvZAAdxqJAAd",
    "bbFAAeymVAAewvTAAevzDAAeikTAAedvNAAdyjBAAdurVAAdnuRAAdjgFAAdizRAAddgPAAcwgHAActaXAAcrcXAAdtm",
    "BAAdstLAAdpqFAAdkyZAAczlDAAcqtDAAdfqJAAermJAAemvLAAdqpJAAdnmJAAdyeHAAdtiFAAdefBAAcwmDAAernNA",
    "AeovXAAeemJAAebqBAAeasJAAdqaHAAdpgBAAcwzZAAewcTAAdnmLAAewvVAAewxDAAdsjJAAdppXAAdkxXAAcwxJAAd",
    "ffFAAekaPAAeeoXAAdfpLAAezqFAAepgXAAemcXAAdxjVAAdvyHAAevyTAAdtgRAAeymTAAemlLAAezuHAAecmXAAeib",
    "HAAdqdJAAevmDAAerzNAAduuHAAdksVAAdfxHAAediPAAdccNAAecsXAAejyVAAdluRAAejmNAAdwaRAAezjDAAexhLA",
    "AexaDAAefuVAAdqjFAAdmeJAAdfvHAAdanTAAewdNAAevdZAAerfVAAencDAAehxJAAeaeDAAdtfPAAcxqFAAcuaZAAc",
    "qwVAAcqsRAAewlHAAeheFAAedpXAAdckRAAenmHAAeldDAAekuPAAeivLAAeawBAAdzfVAAdwtXAAdsuNAAdpqPAAdnt",
    "VAAdcqDAAdkjLAAdbwVAAczmVAAewwVAAewmDAAeuwVAAdzqRAAdhmPAAdgbDAAenhHAAemkHAAejsZAAednPAAdqzNA",
    "AdxqPAAeziTAAetfRAAepmRAAeocVAAemhZAAdxmJAAdwyJAAdomBAAdnyXAAdajXAAcwuHAAcwoBAAcvyDAAeywXAAd",
    "szFAAdauFAAcwzNAAeltVAAezrJAAexxPAAepnNAAephJAAeifHAAeewNAAdyzBAAdvpLAAdklNAAdbtDAAcqiNAAehn",
    "LAAcxlFAAewrJAAeguZAAeglVAAeclLAAebkVAAdxiBAAdwiHAAdtzXAAdqmNAAcvuXAAexnZAAekwDAAcxgNAAeymZA",
    "AeosLAAebzJAAdcuRAAemwNAAeloRAAegkJAAdxtFAAcxgDAAexaLAAevpDAAephBAAehyNAAehaJAAefzVAAecuLAAd",
    "xkDAAdvzPAAdosVAAdhrBAAdhpTAAdawFAAcxaDAAewgDAAeblBAAevpFAAdzcLAAdwzTAAdjvNAAcxfNAAcsxHAAcre",
    "LAAegwFAAeceDAAdmyDAAdsiHAAdsbVAAdqzLAAdykXAAeabJAAdfuTAAezsBAAdlzBAAexbTAAexfTAAenrHAAeknDA",
    "AdquZAAeqbDAAecsRAAehpBAAdcxBAAdidRAAcxnZAAdhfHAAenoPAAexvZAAeulLCAesmLBAehuXCAexkNAAdyeXAAd",
    "vlPAAdtpNAAdtmZAAdtmNAAdtjJAAcwvBAAdqyVAAdorXBAdjxJBAdgfBCAdcfXAAdbqVDAcvqRAAcvpTAAcvmLAAcsa",
    "ZAAdbtVAAcxiTAAezdRAAeyfRAAexxXAAewuTAAewsTAAewkLAAeurHAAeujHAAeubVAAesrPAAesjRAAepoFAAepnNA",
    "AemjXAAeltRAAelqVAAeljFAAeivBAAeijVAAehwLAAegkBAAecqTAAeceHAAebkBAAdzqXAAdzcLAAdxpVAAdugPAAd",
    "ttJAAdtsPAAdtsTAAdtsFAAdtrVAAdtrJABdtnTAAdtaDAAdsvFAAdrwTAAdqfLAAdqdXAAdpzRAAdpcHAAdorBAAdnf",
    "PAAdmuXAAdmuZAAdlkHAAdhvJAAdhlDAAdgjHAAdgfBAAdezPAAdevPAAdcuXAAdckZAAcxjTAAcwnZAAcwjLAAempVA",
    "AjovCAAdndPCAfamTAAexuTAAeyaTAAezmJAAeydPAAexzDAAexaBAAewwFAAeuwJAAevbZAAeuwVAAeurHAAesuTAAe",
    "snZAAescXAAesbTAAerhBAAeqrXAAenxVAAenxJAAenmJAAenhFAAemkHAAembHAAemgTAAelwNAAemaDAAeloZAAelj",
    "ZAAekfHAAejyPAAejuNAAejaPAAeieRAAehsFAAehrZAAehnNAAeekDAAeefFAAedbFAAebvTAAebxBAAebqLAAeaxDA",
    "AdzxJAAdveXAAdziFAAdyyXAAdypNAAdxqLAAdxfBAAdxbBAAdwjTAAdwjRAAdvwPAAdvvJAAdvtNAAdvmZAAdvnVAAd",
    "ujLAAdsyFAAdsdLAAdrpDAAdqxZAAdqmHAAdpmZAAdoxTAAdmkVAAdlyVAAdjhFAAdhyFAAdhsZAAdhrVAAdgvBAAdgq",
    "TAAdguHAAdgqFAAdgqNAAdgrXAAdgmDAAdgfZAAdfcRAAddlRAAdcnPAAdbqZAAdbaBAAcxyXAAcxrBAAcxiHAAcwyDA",
    "AcwvLAAcwuPAAcwqZAAcunDAAcrbVAAiuiWAAiuiIAAjdcAAAfovHAAfllDAAfliRAAkadKAAkicQAAlhwIAAcrjLAAc",
    "rdTcSAhdtJAAhduVABhduRAChduFAAhdtLAAhdtJAAhicPbMAhdmBAAhdmDAAhdlLAAhdlNAAhdlPAAhdlRAAhdlNAAh",
    "dlPAAhdlRAAhdlTAAhdlRAAhdlTAAhdlVAAhdlXAAhdmLAAhdmNAAhdmPAAhdmRAAhdmJAAhdmLAAhdmNAAhdmPAAhdn",
    "DAAhdnFAAhdnHAAhdnJAAhdkDAAhdkFAAhdkHAAhdkJAAhdkHAAhdkJAAhdkLAAhdkNAAhdnFAAhdnHAAhdnJAAhdnLA",
    "AhdnPAAhdnRAAhdnTAAhdnVAAhdnRAAhdnTAAhdnVABhdnXAAhdnZAAhdoBAAhdoDAAhdnTAAhdnVAAhdnZAAhdoBAAh",
    "dnZAAhdoBAAhdoPAAhdoRAAhdnNAAhdnPAAhdoFAAhdoHAAhdmNAAhdmPAAhdmRAAhdmTAAhdmJAAhdmLAAhdmNAAhdm",
    "PAAhdmJAAhdmLAAhdmNAAhdmPAAhdmVAAhdmXAAhdmZAAhdnBAAhdmLABhdmNAAhdmPAAhdmRAAhdmTAAhdmLABhdmNA",
    "AhdmPAAhdmRAAhdmTAAhdnBAAhdnDAAhdnFAAhdnHAAhdlVABhdlXAAhdlZbHAhdrNAAhdrPAAhdrRAAhdrTAAhdpVAA",
    "hdpXAAhdqBAAhdqDAAhdqBAAhdqDBAhdqBAAhdqDAAhdqRAAhdqTAAhdqNAAhdqPAAhdqDAAhdqFAAhdqHAAhdqJAAhe",
    "aVAAheaXSAhdsHAAhdsJAAhdsLAAhdsNuIAhkhRAAgabVBBhkgVAAhkiXAAhkgRABgaaRYAgmfXAAgmgBAAhkgLAAhkg",
    "NABhkkVAAhkePAAhkeNABgadLABgadXABgaeNABgaeVADgaeRCAhkiHAAhkiFEAhkiLAAhkiNAAhkiPAAhkmPAAgagTC",
    "AhklTAAhklXAAhklPAAhknZAAgmiXABhknPAAhkhJAAhkhHABgagFAAhkoLAAhkoHABhkoBAAhknZAAhkmXAAhkmVAAh",
    "kmZBAhkkTABhkpDAAhknDUBhgcZABhgdBABhgdDABhgdFABhgdHAAhgdJAAhgdLABhgdNABhgdPAAhgdRAAhgdTABhgd",
    "VABhgdXAAhgdZAAhgeBABhgeDAAhgeFAAhgeHABhgeJAAhgeLAAhgeNABhgePAAhgeRAAhgeTABhgeVAAhgeXAAhgeZA",
    "BhgfBABhgfDABhgfFABhgfHABhgfJAAhgfLAAhgfNABhgfPAAhgfRAAhgfTABhgfVAAhgfXAAhgfZABhggBAAhggDAAh",
    "ggFABhggHAAhggJAAhggLABhggNAAhggPAAhggRABhggTAAhggVAAhggXABhggZAAhghBAAhghDAAhghFAAhggTAAhgg",
    "VAAhggXABhggZAAhghBAAhghDABhghFAAhghHAAhghJABhghLAAhghNAAhghPABhghRAAhghTAAhghVABhghXAAhghZA",
    "AhgiBABhgiDAAhgiFAAhgiHABhgiJABhgiLABhgiNAAhgiPAAhgiRAAhgiTMbFhlbBAZhkyPAbJhlbBABgfzFAAhlhLA",
    "BgbaXAAgbbXAAgaiTAAgajNAAgapVAAgapTAAgapRAAgapPAAgapNAAgalDAAgalBAAgakZAAganVAAgajNAAgaqNAAg",
    "aqLAAgaqJAAgaqHABgaqFAAgaqDAAgaqBAAgapZAAgapXAAgapVAAgapTAAgapRAAgapPAAgapNAAgapLAAgapJAAgap",
    "FAAgapDAAgapBAFgaoZAAgaoVAAgaoRAAgaoNAAgaoJAEgaoFAAgaoDAAgaoBAFganZAAganXAAganRABgauRBBgytDA",
    "AgygFAAgytFABgygFACgytJAFgygHAAgysHACgytXAAgysBAJgytZDFgyoFCFgyoJCFgyoNCCgyoRDBhliHAAhlhRBAh",
    "liHAAhliLAAgncBBAgjuPADgmkNAAgjiVAAgjfPboBbNdCfGbJdCgAKdABOdABGdABBdAsXBhplPAAhqxLAAhpqBAAhp",
    "vNBAhppNAAcruHAAhppNAAhppRABhpvTAAgvfRAAhpvVAAhpvLAAhppTAAhpvDAAhpvJAAhpvPAAhprDAAhqtVAAhprF",
    "AAhpvJAAhptFABhpqJAAhpvHAAghdWAAcutPAAhpvJAAghdSAAhptBAAghdQAAhqyLABhpvDAAhrjBAAhpvBAAghdIAB",
    "hpuZAAhpuXAAhprXAAhpsDAAcrxBAAhpsFAAhpuRAAgkbLBAhpuJABhptBAAhptXAChqkPAAghcCAAghdObuZbYeYgBV",
    "cMegObFcMbgjWbFcMcMYcCbjqRZnktLAJnkzFcrEZnqeNAZnqgNAZnqiNAGnqkNBRnqkNAZnqmNAZnqoNAAnqqNBBnqq",
    "NCAnqqNCBnqqNCDnqqNBHnqqNADnqsNBAnqsNBGnqsNBKnqsNAZnquNAZnqwNABnqyNBDnqyNCHnqyNBGnqyNBZnraNA",
    "BnrcNBDnrcNBEnrcNBAnrcNDGnrcNBZnreNAZnrgNAZnriNAZnrkNAZnrmNAZnroNAZnrqNAZnrsNAZnruNAZnrwNAZn",
    "ryNAZnsaNAZnscNAAnroNAAnquLCQnprPAAnpsJAGnprPAAmsuDAQnptPAAnptNAGnptPAAmswNAAnpvHAAnpvDAAnpv",
    "BAAnpuFAAnpuRAAnpuVAQnpwBAAnpwVAGnpwBAAmsyPAQnpyBAAnpxZAGnpyBAAmtaZAAnpzTAAnpzPAAnpzNAAnpyRA",
    "AnpzDAAnpzHAQnqaNAAnqbHAGnqaNAAmtdBAQnqcNAAnqcLAGnqcNAAmtfLAAnqeFAAnqeBAAnqdZAAnqdDAAnqdPAAn",
    "qdTAQnqeZAAnqfTAGnqeZAAmthNAQnqgZAAnqgXAGnqgZAAmtjXAAnqiRAAnqiNAAnqiLAAnqhPAAnqiBAAnqiFAQnqj",
    "LAAnqkFAGnqjLAAmtlZAQnqlLAAnqlJAGnqlLAAmtoJAAnqnDAAnqmZAAnqmXAAnqmBAAnqmNAAnqmRAAnqkNAAnqkPC",
    "JntfFAJntfZAJntgTAJnthNAJntiHdcQInwnNACnwnLAKnwnJAAnwnFABnwnDAAjdqNAAnwcPAAnwmTAAnwmRAAnwbPA",
    "AnwgDAAnwdTAInwqBABnwpZABnwpVAAnwpTAFnwpRABnwpPAAnwkHAAnwoXAAnwpBAAnwoJAAnwiPAAjdxLAAnwiHdgK",
    "bHcQbvYBofmVAAofmPAAofmLBAofkRAAofmLAAofmXAAofmFAAofkVADoflLAAofmZAAofmPAAofmBAAofnBAAofmDAA",
    "ofnNAAofnJABofoFAAofoBAAofnZAAofnPAAofnNAAofnLAAofjNAAofdTAAoffTAAofjRBAofpHAAofpBBAofnDCAof",
    "pJBAofnHADofnXAAofpLAAofpBAAofoNAAofpNAAofoPBAofpVABofqRAAofqNBAofqBBAofpXGAofrNEAofrVBAofpT",
    "BAofqJBAofqJAAofrXAAofrNBAofrZAAofrBBAofsHCAofsZBAofsNBAofsJBAofiRBAofoPBAofuFAAoftZBAofsBCA",
    "ofuHAAoftPAAofsFAAofsVBBofsVAAofuJAAoftZAAoftLAAofuLAAoftNBAofuTABofvPAAofvLBAofuZAAofuXAAof",
    "uVAAofqXBAofnDBBofwRAAofwLAAofwHABofuNAAofwHAAofwTAAofwBAAofuRBCofvHAAofwVAAofwLAAofvXAAofwX",
    "AAofvZAAofxJAAofxFABofyBAAofxXAAofxVAAofxLAAofxJAAofxHFAofzDAAofyXAAofyTBAofwZAAofyTAAofzFAA",
    "ofyNAAofxDBCofxTAAofzHAAofyXAAofyJAAofzJAAofyLAAofzVAAofzRABogaNAAogaJAAogaHAAofzXAAofzVAAof",
    "zTxZAomgTAAomfRDZomhHhCAnchTNAlquJAAlwbJAAmbtZAAnchRAAmftNAAlxtTAAkmvDAAlxsTAAmfrZAAlnxPAAlf",
    "oZAAloiDAAmcyFAAlsxLAAmdnDAAlogRAAmdcFAAkwkRAAlcoZAAkktNAAlxyDAAmbnBAAlheHAAlqqLAAlqbTAAmgfX",
    "AAmgfHAAkiaRAAlufBAAmgcTAAmbtDAAlqiHAAkkfFAAlqwHAAkzhXAAkyoVAAmbrZAAlhqVAAlnhXAAlniBAAlcpDAA",
    "mcxPAAmalJAAkhhZUAltaNAAmbwDdqSJouoTdrlMAtwjLAAtwjXAAtwjHAAhezPAAtvnJAAtvhLAAtvgNAAtvbDAAtur",
    "ZAAtupRAAtujTAAtulRAAupuXAAhbeBAAtucFAAtubTAAtuaPAAttzFAAhcaLAAuptJAAtuaRAAttxVAAhbxDAAttxFA",
    "AttwHAAtwaJAAttvVAAttvFAAczlHAAttqLAAttpLAAuprJAAttlHAAttkNAAtthFAAttgXAAupnPAAttaXAAttaVAAt",
    "syVAAtsxFABtswLAAtsvFAAtsrLAAtsqXAAtsqHAAtsoLAAtsnTAAtsnRAAtsnTAAtsnVAAgyhJAAswqBAAtsiHAAtsg",
    "TAAgxjTAAtsfZAAtsfPAAtseBAAtrsLAAtsaJAAtrzFAAtrwVAAtrsLAAtrmBAAtrkDAAtrfBAAtrdXAAtrbLAAtrbNA",
    "AtqzZAAtqyRAAtqyDAAtqxBAAtpwZAAtqrZAAtpxBAAtqmJAAtqjTAAttsZAAtonDAAtpjJAAtpgNAAtpeRAAtpoTAAt",
    "pbZAAtpcDAAtosTAAgqhDAAtonNAAtonFAAtomDAAtokRAAtokDAAtofHAAgoyXAAgotXAAtnuXAAtnrJAAtnqNAAtnw",
    "RAAtnlVAAuoiJAAuohJAAtmzPAAtmvNAAtmvPAAgmqHAAtmlNAAtmjZAAtmiXAAtmiBAAglqVAAtmhHAAtmgVAAtjtXA",
    "AtmeVAAunyFAAtmaFAAtlzFAAtlsZAAtlwZAAgjoNAAtljDAAgjoNAAtlfZAAtlgHAAtlfBABtkxJAAunlVAAtkvLAAt",
    "ksFAAtkqRAAtknJAAuniHAAggwHAAungLAAtkiFAAtkiBAAtkhXAAtkgLAAcmjPAAtkcPAAgfpVAAgfpXAAsjpJAAtka",
    "DAAtkaFAAunbPAAftwNAAekeLAAtjvPAAtjuZAAumzVAAtjrNAAtjnRAAtjmZAAtjkLAAtjaBAAumtPAAumvZAAtiyVA",
    "AgcxRAAtivBAAtilFAAtikZAAtikXAAtilDAAtihRAAtigFAAtidNAAtieRAAtidXAAtiaJAAthyXAAthyRAAthwTAAt",
    "hvZAAthqZAAthkPAAthhZAAtgyNAAfzuDAAthaDAAthfFAAtgwZAAtguZAAtgnPAAfzcZAAtgiZAAtgqFAAtgsLAAumd",
    "JAAtgdVAAtgcHAAtfzZAAtgcZAAulyZAAtfmNAAtfkJAAfwbFAAtfbJAAtegDAAtetRAAulmFAAteoHAAulnRAAulqNA",
    "AtulZAAtulVAAtegDAAtenXAAskuRAAuewPAAteeRAAteeLAAteeBAAtdzLAAteaJAAfthJAAuljTAAtdnTAAtdwVAAt",
    "dhDAAtddHAAfsuTAAtdcTAAtdlJAAtcsPAAuldZAAtcpFAAtchVAAtccLAAtbnXAAfrdXAAtbkDAAukvBAAtbeXAAfpq",
    "NAAtbbDAAukrFAAtayZAAtavPABtatPAAfofRAAgkoVAAfnxLAAtaiPAAfmoZAAtaaBAAszzBAAtagZAAsztPAAszqPA",
    "AszmHAAszqNAAsznNAAszmLAAszlNAAfmiHAAszrXAAsyyRAAsytXAAukbLAAsymXAAsynHAAflbJAAszdHAAsyaRAAf",
    "kqTAAfknDAAsxuDAAsxlJAAsxnNAAsxnVAAujuTAAsxkJAAsxgNAAsxhBAAsxcZAAhcuDAAswrLAAfikHAAswkXAAfhl",
    "FAAswaHAAsvzJAAsvxJAAffqZAAsvtVAAsvsHAAfeuBAAfecZAAsvaXAAsuzRAAujaXAAsuxVAAujaDAAujaFAAsulPA",
    "AsukBAAsuiNAAsuhBAAsubVAAuitBAAstvBAAfbaRAAsttFAAfatTAAstpNAAghhRAAstdJAAeylVAAeykDAAexzLAAu",
    "icPAAuibTAAssmHAAexmHAAexmLAAexjNAAexhPABssjLAAssjNAAssgHAAuhyTAAssbLAAuhxXAAuhrVAAevcXAAsrm",
    "TAAsriBAAsrdFAAuhmHAAetpFAAsqsVAAetgLAAetdFAAsqoRAAsqhRAAuhgZAAsqbHAAsqaPAAsqaHAAercHAAeqfJA",
    "AeqfLAAspoJAAugrJAAeplRAAsoxZAAsoxVAAugoVAAeovPAAsodRAAugfTAAsocDAAsocPAAsoaLAAemoNAAsnsZAAu",
    "fyTAAsnlLAAsngZAAsnbXAAufvDAAekpFAAekmXAAufsNAAekbVAAsmePAAejuFAAsmcRAAsluZAAsluFAAeioVAAeij",
    "HAAslnLAAehzFAAslmJAAfubPAAufjZAAslhNAAslbJAAufgBAAskwZAAtobXAAegmPAAeglPAAftyHAAftxRAAskiLA",
    "AskiHAAsaaNAAuezLAAsjxRAAsjyFAAsjwXAAtueNAAsjvNAAsjvLAAsjuTAAsjrRAAedvHAAsjrXAAsjnRAAsjiJAAs",
    "jcTAAsjnLAAsjbRAAsiyNAAsipZAAsjkBAAsjaZAAsjaXAAsizTAAeddBAAecfJAAecqZAAuemPAAsieVAAsieTAAsic",
    "DAAdxkJAAshwHAAeaxLAAuejHAAuejBAAeanLAAdzrHAAueiNAAsheRAAshdVAAshdBAAshcZAAsgyDAAshaTAAsgqNA",
    "AsgtZAAsgiLAAsgoTAAsgjRAAsghRAAuebFAAsgaVAAsfyLAAudyVAAsfrHAAsfrDAAdvmXAAsfiJAAsfhXAAuduRAAs",
    "ffXAAuraZAAdtuNAAdtgLAAudkNAAudjXAAsdzXAAsduBAAsdiBAAscsNAAdquVAAscmBAAsckLAAscdPAAsbwPAAdox",
    "LAAhbeFAAsbqJAAsbrPAAsbnRAAhanTAAsawHAAsaoRAAdjxJAAdjvJAArzoDAArzhBAArzeRAAdiwZAArzeBAAryiFA",
    "BrxwBAArydFAArwzZAArwxXAAdfhDAArvvHAAubjFAArvsBAAdeeDAAubdFAAruxRAAtmdNAAruqLAAdbhPAAdarHAAu",
    "atFAAuasRAArucHAAczfLAAuaoHAAcyuVAArtzHAArtzJAArtxDAAcxyZAArtjBAAuaeXAArtdTAArsuDAArssDAArsn",
    "PAAtztJAActvTAArrsPAArqvLAArqgZAAtzaBAAtyxTAArpzBAAcppRAAtyxDAAcplPAAcorHAAcohHAArozJAAtyqHA",
    "ArouTAArouLAArotZAArotHAArosVAAroqBAAclsJ"])

/-- The entries of a table of gaps, counts and that many code points: each character that several
others replace, with these. -/
def expansionsFrom : Nat → Nat → List Nat → List (Nat × List Nat)
  | fuel + 1, start, gap :: size :: rest =>
    (start + gap, rest.take size) :: expansionsFrom fuel (start + gap + 1) (rest.drop size)
  | _, _, _ => []

/-- The characters that several others replace. -/
def expansions : List (Nat × List Nat) :=
  let numbers := tableNumbers [
    "gMCbGbdWGCbGbdSECbGbdPDCbGbfBDDbXmfScAADbXmfSbYADbZmfScAeJCeBbdVBCeBeCACeBeCLCeEhBACeEhBICba",
    "YeGeSCdWoSACdWoSACdWoSACeEeCACeEeCACeEeCACeGeCACeGeCACeGeCbKCdWeSACdWeSACdWeSiUCbGbdUACbGbdV",
    "ACbGbdYACbGbfCACbGbdRACbGbdZdYCbdWbdPcBCbGbkRJCbGbdPADbGbdWbdPtTCcbDccGjDCciPclOACcjWclOACco",
    "TclOACcjYclObcHCdlLdmYACdlMdmYACdlNdmYACdlSdmYACdlXdmYACdlYdmYACdmHdmYACdmLdmYeUCdqVdrWACdqW",
    "drWBCdrJdrWdFCdwKdwUCCdwQdwUbICdvIdwUACdvJdwUACdvOdwUCCdwDdwUjTCefPegQACefQegQbbXCfkVfjUeXCf",
    "pTfoSbOCfoLfnTACfoLfoBdXCfuGfyTJCfuQfyTECfuVfyTECfvAfyTECfvFfyTMCfuEfyRJCfwBfwCBCfwBfwEACfyO",
    "fwQADfyOfwBfwQACfyPfwQADfyPfwBfwQHCfwBfwQRCfxIfyTJCfxSfyTECfxXfyTECfyCfyTECfyHfyTMCfxGfyRfqM",
    "CdTbbAiVCltGbkRACltHbkRACltIbkRACltJbkRACltKbkRACltLbkRACltMbkRACltNbkRACltGbkRACltHbkRACltI",
    "bkRACltJbkRACltKbkRACltLbkRACltMbkRACltNbkRACluMbkRACluNbkRACluObkRACluPbkRACluQbkRACluRbkRA",
    "CluSbkRACluTbkRACluMbkRACluNbkRACluObkRACluPbkRACluQbkRACluRbkRACluSbkRACluTbkRAClwYbkRAClwZ",
    "bkRAClxAbkRAClxBbkRAClxCbkRAClxDbkRAClxEbkRAClxFbkRAClwYbkRAClwZbkRAClxAbkRAClxBbkRAClxCbkRA",
    "ClxDbkRAClxEbkRAClxFbkRCClxObkRACbkJbkRACbkEbkRCCmaGbkRECbkJbkRACbGbeHBCbGbeHACbGbgCADbGbdWb",
    "gCAClxSbkRACbkPbkRACbkGbkRCCmaWbkRECbkPbkRADbGbeHbdOADbGbeHbdPADbGbeHbgCNDbGbeIbdOADbGbeIbdP",
    "ADbGbeIbgCNDbGbdWbdOADbGbdWbdPDClyAbkRACblHbkRACblMbkRCCmcSbkRECblHbkRACbGbdPACbGbeIYCbGbfNb",
    "BCmfAmfAADmfAmfAmfABCmfDmfDADmfDmfDmfDECbHbHBCbGbdTICcLcLACcLbHACbHcLNEmfAmfAmfAmfAdCCeKeLdJ",
    "DdTbVdVADdTbVeLBCgUdVBDdVbVeHADdVbVeNCCgUdYMCeGeHJCeLeFADeMdXeEACeMeFYDdYdTeQUDbXmfScDADbXmf",
    "ScFAEbXmfSbXbWADbXmfSbZADbYmfSbZADbXmfScBADbYmfScBADbZmfScBADcAmfScBADbXmfScCADcBmfScCADbXmf",
    "ScEADbZmfScEADcBmfScEADcDmfScEACbXmfSBCeBeBADeBeBeBACeBeOBCeOeBADeOeBeBAEeOeBeBeBACeBeQBCeQe",
    "BADeQeBeBFCeBeBADeBeBeBACeBeOBCeOeBADeOeBeBAEeOeBeBeBACeBeQBCeQeBADeQeBeBNDbWmfSbZgGCmyLmyLA",
    "DmyLmyLmyLBCmyOmyOADmyOmyOmyOvWCbXbWACbXbXACbXbYACbXbZACbXcAACbXcBACbXcCACbXcDACbXcEACbXcFAC",
    "bYbWADbObXbPADbObYbPADbObZbPADbOcAbPADbOcBbPADbOcCbPADbOcDbPADbOcEbPADbOcFbPAEbObXbWbPAEbObX",
    "bXbPAEbObXbYbPAEbObXbZbPAEbObXcAbPAEbObXcBbPAEbObXcCbPAEbObXcDbPAEbObXcEbPAEbObXcFbPAEbObYbW",
    "bPUDbOdTbPADbOdUbPADbOdVbPADbOdWbPADbOdXbPADbOdYbPADbOdZbPADbOeAbPADbOeBbPADbOeCbPADbOeDbPAD",
    "bOeEbPADbOeFbPADbOeGbPADbOeHbPADbOeIbPADbOeJbPADbOeKbPADbOeLbPADbOeMbPADbOeNbPADbOeObPADbOeP",
    "bPADbOeQbPADbOeRbPADbOeSbPcaOEmyLmyLmyLmyLdZDcGcGcJACcJcJADcJcJcJdXCqgBbfSceOCbGskNACbGskOCC",
    "sjWsjYdRCslNsmIjWDbOglKbPADbOglMbPADbOglNbPADbOglPbPADbOglQbPADbOglRbPADbOglTbPADbOglVbPADbO",
    "glWbPADbOglYbPADbOglZbPADbOgmAbPADbOgmBbPADbOgmCbPADbOcndObPADbOcowUbPADbOcptKbPADbOcrmQbPAD",
    "bOcsjGbPADbOctfWbPADbOcuzCbPADbOcwsIbPADbOcxoYbPADbOcziEbPADbOdaeUbPADbOdbbKbPADbOdbyAbPADbO",
    "dcuQbPADbOcycYbPAEbOcxaYcxtKbPAEbOcxaYddiQbPBDbObdoAbPADbObdtKbPADbObdoJbPADbObgxFbPADbObdtS",
    "bPADbObevTbPADbObdoDbPADbObevRbPADbObdrPbPADbObfnTbPADbObnaMbPADbObqoXbPADbObozKbPADbObnbSbP",
    "ADbOcdfTbPADbObgzVbPADbObmpHbPADbObnlQbPADbObnaNbPADbObtxUbPADbObfvPbPADbObrjDbPADbOcbgRbPAD",
    "bObtyZbPADbObfiIbPADbObdwTbPADbObfzWbPADbObipYbPADbObtaPbPADbObdxXbPADbOcbiDbPADbObfoMbPADbO",
    "btzPbPADbObdyNbPADbObxfEbPADbObxfNbPMDeIeMdXACbYbXACbYbYACbYbZACbYcAACbYcBACbYcCACbYcDACbYcE",
    "ACbYcFACbZbWACbZbXACbZbYACbZbZACbZcAACbZcBbCCcziUcnmEACcycYcxmUbZCbZcCACbZcDACbZcEACbZcFACcA",
    "bWACcAbXACcAbYACcAbZACcAcAACcAcBACcAcCACcAcDACcAcEACcAcFACcBbWACbXbnaMACbYbnaMACbZbnaMACcAbn",
    "aMACcBbnaMACcCbnaMACcDbnaMACcEbnaMACcFbnaMADbXbWbnaMADbXbXbnaMADbXbYbnaMACeAdZADdXeKdZACdXeO",
    "ADeEeMdWbVCbdwUbgaMAEskWsmRsoIsmIAEskWsnRsmVskVAEskWsnZsnAskWADskWsoIsnRAEskYsmLsnZslKADskYs",
    "nZsmBADslAslDsnZAFslCslTslJsoIsmJAEslCsoIslFsoIADslEsnZslTADslEsoIsnGADslFskYsnQAEslFsnPsmDs",
    "mIAEslFsnTsnQsoIADslGsnTsnZADslGsnZsnEACslIslGADslIsmLsoIAEslHsnLsnQsoIAEslIsnRsmAsoIACslHsn",
    "TAFslHsnTslKsnPsnGAGslHsnTsnHsoIsmIsnRAFslHsnTsnVsmDsmIADslKsnPsnGAFslKsnPsnGsmIsnZAFslJsnRs",
    "lWskYsnTAEslJsnTsoIsmNADslLsoIslTADslNsnRsmKADslNsoIsnDAEslPskYslJsnRAFslPsnZsmBsoIsnGAEslRs",
    "nQsnZslKADslVsnZsmBADslVsnZsmIADsmAsoIslTACsmHslRACsmJsnRACsmIsnZACsmKsmOADsmOsmDsmIADsmPskY",
    "smEAFsmRsoIslVsnZsmIADsmRsoIsmEAEsmQsoIsnSsnRAFsmUskWslTsmIsnRADsmUslJsnRACsmUslNACsmTsnRAFs",
    "mVskVsnPsmDsmJAEsmVskXsoIsmIAFsmWsmDslRslBsnRADsmVsnPsnZAFsmYslJslZsoIsnRACsnAslXADsnAsmLsmS",
    "ADsmYsnRsmEADsnAsnZslTADsnAsoIslSADsmZsoIslZAEsnDskYsnZsmIADsnCsnRsmIACsnBsnZADsnDsnZsmJADsn",
    "BsoIsnRADsnBsoIsnZAEsnEskYslJsnTADsnEskYsnRADsnEsmDsmPADsnEsnRslJAFsnEsnZslRsnNsnZAEsnFslJsn",
    "TsnZACsnFsnQAFsnFsnQsmQsoIsnRACsnHslGAEsnHslGsmIsnZAEsnHsoIsmIsnRADsnKsoIsmJADsnKsoIsnRADsnM",
    "skWsnZAEsnQsmDsmIsnRACsnQsnPADsnRsmUsoIAEsnRsoIsmWsnRACsnSsnGAFsnSsnZsmIslMsnZADsnVsmDsmIACb",
    "WbqrXACbXbqrXACbYbqrXACbZbqrXACcAbqrXACcBbqrXACcCbqrXACcDbqrXACcEbqrXACcFbqrXADbXbWbqrXADbXb",
    "XbqrXADbXbYbqrXADbXbZbqrXADbXcAbqrXADbXcBbqrXADbXcCbqrXADbXcDbqrXADbXcEbqrXADbXcFbqrXADbYbWb",
    "qrXADbYbXbqrXADbYbYbqrXADbYbZbqrXADbYcAbqrXADeAeIdTACdWdTACdTeNADdUdTeKACeHeOACeIdVACdWeFADd",
    "WeFbYADdWeFbZACeBeNACbjtZbldOACbmsBbgaMACbhtVborJACbmqWbpePAEbnlQbjzZbdyWbtxUACeIdTACeGdTACb",
    "kUdTACeFdTACeDdTACeDdUACeFdUACdZdUADdVdTeEAEeDdVdTeEACeIdYACeGdYACbkUdYACbkUdZACeFdZACeDdZAC",
    "eAeSADeDeAeSADeFeAeSADdZeAeSADeMeAeSACbkUeEACeFeEACdWeEACeDeEACdYeFACeGeFACbkUeFACeFeFACdVeF",
    "ACeDeFADeFeFbYADdVeFbYACeFbYADeDeFbYADeFeFbZADdVeFbZACeFbZADeDeFbZADeFmxPeLAEeFmxPeLbYACeIdT",
    "ADeDeIdTADeFeIdTADdZeIdTADeKdTdWAFeKdTdWmxPeLAGeKdTdWmxPeLbYACeIeLACeGeLACbkUeLACeFeLACeIeOA",
    "CeGeOACbkUeOACeFeOACeDeOACeFeOACeIePACeGePACbkUePACeFePACeDePACeFePACeDblHACeFblHBCdUeJACdVd",
    "VACdVdWAEdVmxPeDdZBCdWdUACdZeRACeAdTACeAeIACeBeGACeDeDACeDeFACeDeMACeEeFACeEeGADeEeHdZACeEeQ",
    "ACeFdUADeFeBeEADeFeHeEACeIeABDeIeIeFACeIeKACeLeKACeLeOACePdUADeOmxPeFADdTmxPeFACbXbmpHACbYbm",
    "pHACbZbmpHACcAbmpHACcBbmpHACcCbmpHACcDbmpHACcEbmpHACcFbmpHADbXbWbmpHADbXbXbmpHADbXbYbmpHADbX",
    "bZbmpHADbXcAbmpHADbXcBbmpHADbXcCbmpHADbXcDbmpHADbXcEbmpHADbXcFbmpHADbYbWbmpHADbYbXbmpHADbYbY",
    "bmpHADbYbZbmpHADbYcAbmpHADbYcBbmpHADbYcCbmpHADbYcDbmpHADbYcEbmpHADbYcFbmpHADbZbWbmpHADbZbXbm",
    "pHADdZdTeEcxjKCdYdYACdYeBACdYeEADdYdYeBADdYdYeEACeLeMACeLeMMCcbScbUACcbScbDACcbScbJACccCcbUA",
    "CcbScbLFCcfPceEBCcgOceHKCcgFceRACcgFceSADcgFceMceRADcgFceMceSACcfGceHACcfGceIACcfGceMACcfHce",
    "MACcfIceMACcfJceMACcfKceMACcfLceMACcfMceMBCcfOceMACcfPceMACcfQceMACcfRceMACcfSceMBCcfUceMBCc",
    "fWceMACcfXceMBCcfZceMACcgAceMBCcgCceMACcgDceMACcgEceMACcgFceMACcgGceMACcfLceJACcfHcePACcfRce",
    "PACcgAcePACcfGcfSfLCcoTclOMCciOciPACciOciPACciOcpHACciOcpHACciOcjWACciOcjWACciOcoTACciOcoTAC",
    "ciOcoSACciOcoSACciOcoUACciOcoUACciOcpCACciOcpCACciOcpCACciOcjXACciOcjXACciOcjXECciOciUACciOc",
    "iVACciOcjTACciOcjXACciOcjYACciQciUACciQciVACciQciWACciQcjTACciQcjXACciQcjYACciSciUACciSciVAC",
    "ciSciWACciScjTACciScjXACciScjYACciTciUACciTcjTACciTcjXACciTcjYACciUciVACciUcjTACciVciUACciVc",
    "jTACciWciUACciWciVACciWcjTACcjBciUACcjBciVACcjBciWACcjBcjTACcjDciVACcjDcjTACcjEciUACcjEciVAC",
    "cjEciWACcjEcjTACcjFciVACcjFcjTACcjGcjTACcjHciUACcjHcjTACcjIciUACcjIcjTACcjPciUACcjPciVACcjPc",
    "iWACcjPcjTACcjPcjXACcjPcjYACcjQciVACcjQcjTACcjQcjXACcjQcjYACcjRciPACcjRciUACcjRciVACcjRciWAC",
    "cjRcjSACcjRcjTACcjRcjXACcjRcjYACcjSciUACcjSciVACcjSciWACcjScjTACcjScjXACcjScjYACcjTciUACcjTc",
    "iVACcjTciWACcjTcjTACcjTcjXACcjTcjYACcjUciUACcjUciVACcjUciWACcjUcjTACcjUcjXACcjUcjYACcjVciUAC",
    "cjVcjTACcjVcjXACcjVcjYACcjYciUACcjYciVACcjYciWACcjYcjTACcjYcjXACcjYcjYACciYclKACciZclKACcjXc",
    "lKADbGckAckFADbGckBckFADbGckCckFADbGckDckFADbGckEckFADbGckFclKACciOciZACciOcjAACciOcjTACciOc",
    "jUACciOcjXACciOcjYACciQciZACciQcjAACciQcjTACciQcjUACciQcjXACciQcjYACciSciZACciScjAACciScjTAC",
    "ciScjUACciScjXACciScjYACciTciZACciTcjAACciTcjTACciTcjUACciTcjXACciTcjYACcjPcjXACcjPcjYACcjQc",
    "jXACcjQcjYACcjRciPACcjRcjSACcjRcjTACcjRcjXACcjRcjYACcjScjTACcjScjXACcjScjYACcjTciPACcjTcjTAC",
    "cjUciZACcjUcjAACcjUcjTACcjUcjUACcjUcjXACcjUcjYACcjXclKACcjYciZACcjYcjAACcjYcjTACcjYcjUACcjYc",
    "jXACcjYcjYACciOciUACciOciVACciOciWACciOcjTACciOcjVACciQciUACciQciVACciQciWACciQcjTACciQcjVAC",
    "ciSciUACciSciVACciSciWACciScjTACciScjVACciTcjTACciUciVACciUcjTACciVciUACciVcjTACciWciUACciWc",
    "jTACcjBciUACcjBciVACcjBciWACcjBcjTACcjDciVACcjDciWACcjDcjTACcjEciUACcjEciVACcjEciWACcjEcjTAC",
    "cjFciVACcjGcjTACcjHciUACcjHcjTACcjIciUACcjIcjTACcjPciUACcjPciVACcjPciWACcjPcjTACcjQciVACcjQc",
    "jTACcjRciUACcjRciVACcjRciWACcjRcjSACcjRcjTACcjSciUACcjSciVACcjSciWACcjScjTACcjScjVACcjTciUAC",
    "cjTciVACcjTciWACcjTcjTACcjUciUACcjUciVACcjUciWACcjUcjTACcjUcjVACcjVciUACcjVcjTACcjVclKACcjYc",
    "iUACcjYciVACcjYciWACcjYcjTACcjYcjVACciOcjTACciOcjVACciQcjTACciQcjVACciScjTACciScjVACciTcjTAC",
    "ciTcjVACcjBcjTACcjBcjVACcjCcjTACcjCcjVACcjRcjSACcjRcjTACcjScjTACcjUcjTACcjUcjVACcjYcjTACcjYc",
    "jVADcjOckCckFADcjOckDckFADcjOckEckFACcjFcjXACcjFcjYACcjHcjXACcjHcjYACcjIcjXACcjIcjYACcjBcjXA",
    "CcjBcjYACcjCcjXACcjCcjYACciVcjXACciVcjYACciUcjXACciUcjYACciWcjXACciWcjYACcjDcjXACcjDcjYACcjE",
    "cjXACcjEcjYACcjCciUACcjCciVACcjCciWACcjCcjTACcjCciZACcjBciZACcjDciZACcjEciZACcjFcjXACcjFcjYA",
    "CcjHcjXACcjHcjYACcjIcjXACcjIcjYACcjBcjXACcjBcjYACcjCcjXACcjCcjYACciVcjXACciVcjYACciUcjXACciU",
    "cjYACciWcjXACciWcjYACcjDcjXACcjDcjYACcjEcjXACcjEcjYACcjCciUACcjCciVACcjCciWACcjCcjTACcjCciZA",
    "CcjBciZACcjDciZACcjEciZACcjCciUACcjCciVACcjCciWACcjCcjTACcjBcjVACcjCcjVACcjFcjTACcjBciUACcjB",
    "ciVACcjBciWACcjCciUACcjCciVACcjCciWACcjFcjTACcjGcjTACciPcjZACciPcjZSDciSciUcjTADciSciVciUADc",
    "iSciVciUADciSciVcjTADciSciWcjTADciScjTciUADciScjTciVADciScjTciWADciUcjTciVADciUcjTciVADciVcj",
    "TcjYADciVcjTcjXADcjBciVciUADcjBciUciVADcjBciUcjXADcjBcjTciVADcjBcjTciVADcjBcjTciUADcjBcjTcjT",
    "ADcjBcjTcjTADcjDciVciVADcjDciVciVADcjDcjTcjTADcjCciVcjTADcjCciVcjTADcjCciUcjYADcjCcjTciWADcj",
    "CcjTciWADcjCcjTcjTADcjCcjTcjTADcjEciVcjXADcjEciWcjTADcjEciWcjTADcjFcjTciVADcjFcjTciVADcjFcjT",
    "cjTADcjFcjTcjYADcjHciUcjTADcjHcjTcjTADcjHcjTcjTADcjHcjTcjXADcjIcjTcjTADcjIcjTcjYADcjIcjTcjXA",
    "DcjPciWcjTADcjPciWcjTADcjQcjTciVADcjQcjTcjTADcjSciVcjTADcjSciVcjYADcjSciVcjXADcjSciUciUADcjS",
    "ciUciUADcjSciWcjTADcjSciWcjTADcjScjTciVADcjScjTciVADcjTciVciUADcjTciVcjTADcjTciVcjYADcjTciUc",
    "iVADcjTciUcjTADcjTciWciUADcjTciWcjTCDcjTciUciWADcjVcjTciUADcjVcjTcjTADcjUciVcjTADcjUciVcjXAD",
    "cjUciUcjTADcjUciUcjTADcjUciUcjXADcjUcjTcjYADcjUcjTcjXADcjYcjTcjTADcjYcjTcjTADciQciWcjYADciSc",
    "iUcjYADciSciUcjXADciSciWcjYADciSciWcjXADciScjTcjYADciScjTcjXADciUcjTcjYADciUciVcjXADciUcjTcj",
    "XADcjBciWcjXADcjDciVcjYADcjCciVcjYADcjEciVcjYADcjSciUcjYADcjScjTcjYADcjYciVcjYADcjYciUcjYADc",
    "jYcjTcjYADcjTcjTcjYADcjQcjTcjYADcjUciVcjYADcjQcjTciVADcjSciVcjTADcjHcjTcjYADcjRcjTcjYADcjUci",
    "UciVADcjTciWcjYADcjSciUcjTADcjRcjTcjTADcjSciUcjTADcjUciUciVADciUciVcjYADciVciUcjYADcjTciUcjY",
    "ADcjPcjTcjYADciQciVcjYADcjRcjTcjTADcjHciUcjTADcjDcjTcjTADcjBciWcjYADcjUciUcjYbODcjDcjScpEADc",
    "jQcjScpEAEciPcjScjScjVAEciPcjRciQciZAEcjTciVcjTciXAEcjDcjScjHcjTAEciZcjBcjWcjSAEcjHcjScjYcjV",
    "AEcjWcjBcjScjTADcjDcjScjXAScjDcjScjXbGciPcjScjScjVbGcjHcjScjYcjVbGcjWcjBcjScjTAIciUcjSbGciUc",
    "jSciPcjScjVAEciZcoYciPcjScYCbGbdTACbGbdTACbGbdTACbGbdTbJCbGcjZACcjOcjZACbGckABCbGckBBCbGckCA",
    "CcjOckCACbGckDACcjOckDACbGckEACcjOckEACbGckFACcjOckFACbGckGACcjOckGeNCcjSciKACcjSciKACcjSciL",
    "ACcjSciLACcjSciNACcjSciNACcjSciPACcjSciPiWCbGbdSdbiOCgufVgugJACgufWgugJADgufWgugJgugSADgufWg",
    "ugJgugTADgufWgugJgugUADgufWgugJgugVADgufWgugJgugWdICgujPgugJACgujQgugJADgujPgugJgugSADgujQgu",
    "gJgugSADgujPgugJgugTADgujQgugJgugTlvSCbWbSACbXbSACbYbSACbZbSACcAbSACcBbSACcCbSACcDbSACcEbSAC",
    "cFbSFDbOdTbPADbOdUbPADbOdVbPADbOdWbPADbOdXbPADbOdYbPADbOdZbPADbOeAbPADbOeBbPADbOeCbPADbOeDbP",
    "ADbOeEbPADbOeFbPADbOeGbPADbOeHbPADbOeIbPADbOeJbPADbOeKbPADbOeLbPADbOeMbPADbOeNbPADbOeObPADbO",
    "ePbPADbOeQbPADbOeRbPADbOeSbPADsfKeLsfLCCdVdWACePeSbBCeAeOACeFeOACeLdWACeLeLADeIeIeOACePdVbAC",
    "eFdVACeFdWACeFeKbJCdWeCeHCsjJshNACslNslNcKDsfKbnbWsfLADsfKbdoJsfLADsfKbdtKsfLADsfKbirHsfLADs",
    "fKbqrXsfLADsfKblgDsfLADsfKbtaDsfLADsfKbfjXsfLADsfKbmjVsfL"]
  expansionsFrom numbers.length 0 numbers

/-- The characters beyond ASCII that stay, among those that are neither left out nor replaced. -/
def kept : CharSet :=
  .ofTable [
    "gFbbYDCSAbBoXbPbXCCBcCIbAEFRVBhJBbVCcGCdWOcGCbWCOBbBCABKFbFHcWBgEBHCBCVBGBADDCICBCDIAIDCYCCB",
    "FEBCVBGBACACBCABEEBCCDAKAJQKCBIBCBVBGBBBECJBCBCCAPDCLHGBCBHCBCVBGBBBECICBCCHCHECRKBBFDCBDDBB",
    "ABBDBDCDLEEDCBDCAGAOUFMBCBWBPCIBCBDHBBCBBCDCJHVBCBWBJBECIBCBDHBFCBDCJBCMMBCBbYBCBFEPCZBCBRDX",
    "BIBACGDAEFBABHGJCCMcFEbCbLBBABEBXBABWCEBABGBJEBbGcTBbJEbMBbJBOBMbLgDbWoMBDCGBABDCbOBDCbGBDCG",
    "BABDCOBcEBDCcOCbFDZGdHKyPBbBDdKHVJXJTMMBCBBMdPCJGJGZGdKHbQFcRKbEBLELEADbPCELbREZGKDcJCcMBbCC",
    "KGJGNCbTCLUcYBgJIcHDODcJcBHIbQFuNKbLKHIbCbZBEAPMDBIHOAVBCTDAIbUcNbHObGTfFEzPWKgEcmICoRFbSBAF",
    "ACcDIAOXJGBGBGBGBGBGBGBGBeVbIZBdJkKcKBdHCdXGbQdSdHKPcUcDoUbqqEDcCJnJVhAIiLbAcCDJGcDIcRILGeLL",
    "bDDcZBKEbGBcCJNCJCdYYbBKFCFCFJGBGBcHdGbTCJGqnRMWEbWmxMbBjKAfRuVbTCbGPVBbSApGLBZBSBBBOCNbIeSF",
    "CEbSDdJBMDAbVbTfAbCDbWPbBEbJJbDFbQFbDBbKENdEeNCJbUbJEbNIbZLAbNKBOBGBBDbZMlYJVKHYAeXFCABbRBBD",
    "ACWBcTIIbWSBBFbGDbAFbAbMcDETCbXBBFHBCBbCCCEJHIHcLbGbMELJcBDbCCbAFZHDMGdCcUePbYHbTIJGPZbCIBiA",
    "bEBbPBCCBQFIIbHbTIbPWZbMbBUWJcZEbJJcJBENYHJGcABRIbMJdRBTLRBbUcKGBABDBOBKGcGFJGDBHCBCVBGBBBEB",
    "JCBCCCAGAFGCGDELJBACABbLBJBACABDBJBBIBbDdNBEbEcTIJgKcBCbLbIcQLJGMTcFGJGTbCbACOEWhDcHfCbYMHCA",
    "CHBBBbDBBCLJJcSHCbTCKbBcTIdENcUHJdIHdKbHOJGIBbSBNKbCDbFCVBNcVGBBBbRDABBBIIJGFBBBbKBBBFHJGbRE",
    "JjMYHQBbODbCdHAPbXNbjMdYeGBELhNdxKdUNbpFQVKfxQFwKkdDcFcoSvWHbEBJEdCBJGbDCFKcRKJBGBUFSqQcFiWc",
    "GbGYbScWEcEHQcMELGJkxXbPbFdTeKmwRDBGBBBlEPAbDCCAODIpFdkUeCFMDIHJCDfvKjSDqTGWPQPbTCWJeLcIjLKb",
    "MChLVcReSTMTMdIJYbsPzBPEBObqMbEGFiFGBQCGBBBEdWAeIbSDNCJEBmIbERcFFArWbPiGbQEAhKbEBVIBiQGBDBBB",
    "OBhOCPcXbPEJEBbeFcPcYcIqSBkKbREdVMOCOBOBbKVgGcEZdSFfYblWDQDMDiJGLEAPLEcDIJGbNIbDCLEBOIbNnFIN",
    "CMDKDcEBAEPCLEJHfQBdYbnPclfBbGgmNCioBClbKPxXgrQhhYFmoN"]

/-- The code points that a replaced character stands for. -/
def replacement? (n : Nat) : Option (List Nat) :=
  match replacedRuns.find? fun r => r.1.1 ≤ n && n ≤ r.1.2 with
  | some r => some [displaced r.1.1 r.2 + (n - r.1.1)]
  | none => expansions.lookup n

/-- What becomes of a character; nothing when it is refused. -/
def mapped? (c : Char) : Option (List Char) :=
  let n := c.toNat
  if n < 0x80 then some [lowerAscii c]
  else if ignored.has n then some []
  else
    match replacement? n with
    | some ns => some (ns.map Char.ofNat)
    | none => if kept.has n then some [c] else none

/-- Whether a character stays as it is. -/
def isKept (c : Char) : Bool :=
  mapped? c == some [c]

end Conform.Domain
