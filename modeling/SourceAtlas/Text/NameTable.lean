/-!
The names of characters by version 14 of the Unicode character database, aliases included; those
that follow from the number of the character (unified ideographs, Hangul syllables) are left out.
The names stand in the order of the characters, the aliases after them. Each name is written as the
number of characters that the name before it loses at its end, in small letters that add up (a for 0
up to z for 25), and the characters that it gains. Its character is the next one, or the one after
an at sign.
-/
namespace SourceAtlas.Text

def nameTable : String :=
  "
aSPACE@32fEXCLAMATION MARKqQUOTATION MARKoNUMBER SIGNlDOLLAR SIGNlPERCENT SIGNmAMPERSANDiPOSTROPHE
kLEFT PARENTHESISqRIGHT PARENTHESISrASTERISKiPLUS SIGNjCOMMAfHYPHEN-MINUSmFULL STOPjSOLIDUS
hDIGIT ZEROeONEdTWOcHREEfFOURdIVEeSIXcEVENfEIGHTfNINEkCOLONfSEMICOLONjLESS-THAN SIGNoEQUALS SIGN
lGREATER-THAN SIGNrQUESTION MARKnCOMMERCIAL ATnLATIN CAPITAL LETTER AbBbCbDbEbFbGbHbIbJbKbLbMbNbO
bPbQbRbSbTbUbVbWbXbYbZvEFT SQUARE BRACKETtREVERSE SOLIDUSoIGHT SQUARE BRACKETuCIRCUMFLEX ACCENT
rLOW LINEiGRAVE ACCENTmLATIN SMALL LETTER AbBbCbDbEbFbGbHbIbJbKbLbMbNbObPbQbRbSbTbUbVbWbXbYbZ
tEFT CURLY BRACKETsVERTICAL LINEnRIGHT CURLY BRACKETtTILDEfNO-BREAK SPACE@160
oINVERTED EXCLAMATION MARKzaCENT SIGNjPOUND SIGNkCURRENCY SIGNnYEN SIGNiBROKEN BARkSECTION SIGN
mDIAERESISjCOPYRIGHT SIGNoFEMININE ORDINAL INDICATORzbLEFT-POINTING DOUBLE ANGLE QUOTATION MARK
zqNOT SIGNiSOFT HYPHENlREGISTERED SIGNpMACRONgDEGREE SIGNlPLUS-MINUS SIGNpSUPERSCRIPT TWOcHREE
rACUTE ACCENTmMICRO SIGNkPILCROW SIGNmMIDDLE DOTkCEDILLAhSUPERSCRIPT ONE
pMASCULINE ORDINAL INDICATORzcRIGHT-POINTING DOUBLE ANGLE QUOTATION MARK
zrVULGAR FRACTION ONE QUARTERhHALFiTHREE QUARTERSzfINVERTED QUESTION MARK
wLATIN CAPITAL LETTER A WITH GRAVEfACUTEfCIRCUMFLEXkTILDEfDIAERESISjRING ABOVEqEcC WITH CEDILLA
oE WITH GRAVEfACUTEfCIRCUMFLEXkDIAERESISqI WITH GRAVEfACUTEfCIRCUMFLEXkDIAERESISqETHdN WITH TILDE
mO WITH GRAVEfACUTEfCIRCUMFLEXkTILDEfDIAERESISzmMULTIPLICATION SIGN
tLATIN CAPITAL LETTER O WITH STROKEnU WITH GRAVEfACUTEfCIRCUMFLEXkDIAERESISqY WITH ACUTEmTHORN
uSMALL LETTER SHARP ShA WITH GRAVEfACUTEfCIRCUMFLEXkTILDEfDIAERESISjRING ABOVEqEcC WITH CEDILLA
oE WITH GRAVEfACUTEfCIRCUMFLEXkDIAERESISqI WITH GRAVEfACUTEfCIRCUMFLEXkDIAERESISqETHdN WITH TILDE
mO WITH GRAVEfACUTEfCIRCUMFLEXkTILDEfDIAERESISzkDIVISION SIGNnLATIN SMALL LETTER O WITH STROKE
nU WITH GRAVEfACUTEfCIRCUMFLEXkDIAERESISqY WITH ACUTEmTHORNfY WITH DIAERESIS
zeCAPITAL LETTER A WITH MACRONzdSMALL LETTER A WITH MACRONzbCAPITAL LETTER A WITH BREVE
zcSMALL LETTER A WITH BREVEzaCAPITAL LETTER A WITH OGONEKzdSMALL LETTER A WITH OGONEK
zbCAPITAL LETTER C WITH ACUTEzcSMALL LETTER C WITH ACUTEzaCAPITAL LETTER C WITH CIRCUMFLEX
zhSMALL LETTER C WITH CIRCUMFLEXzfCAPITAL LETTER C WITH DOT ABOVEzgSMALL LETTER C WITH DOT ABOVE
zeCAPITAL LETTER C WITH CARONzcSMALL LETTER C WITH CARONzaCAPITAL LETTER D WITH CARON
zcSMALL LETTER D WITH CARONzaCAPITAL LETTER D WITH STROKEzdSMALL LETTER D WITH STROKE
zbCAPITAL LETTER E WITH MACRONzdSMALL LETTER E WITH MACRONzbCAPITAL LETTER E WITH BREVE
zcSMALL LETTER E WITH BREVEzaCAPITAL LETTER E WITH DOT ABOVEzgSMALL LETTER E WITH DOT ABOVE
zeCAPITAL LETTER E WITH OGONEKzdSMALL LETTER E WITH OGONEKzbCAPITAL LETTER E WITH CARON
zcSMALL LETTER E WITH CARONzaCAPITAL LETTER G WITH CIRCUMFLEXzhSMALL LETTER G WITH CIRCUMFLEX
zfCAPITAL LETTER G WITH BREVEzcSMALL LETTER G WITH BREVEzaCAPITAL LETTER G WITH DOT ABOVE
zgSMALL LETTER G WITH DOT ABOVEzeCAPITAL LETTER G WITH CEDILLAzeSMALL LETTER G WITH CEDILLA
zcCAPITAL LETTER H WITH CIRCUMFLEXzhSMALL LETTER H WITH CIRCUMFLEXzfCAPITAL LETTER H WITH STROKE
zdSMALL LETTER H WITH STROKEzbCAPITAL LETTER I WITH TILDEzcSMALL LETTER I WITH TILDE
zaCAPITAL LETTER I WITH MACRONzdSMALL LETTER I WITH MACRONzbCAPITAL LETTER I WITH BREVE
zcSMALL LETTER I WITH BREVEzaCAPITAL LETTER I WITH OGONEKzdSMALL LETTER I WITH OGONEK
zbCAPITAL LETTER I WITH DOT ABOVEzgSMALL LETTER DOTLESS IwCAPITAL LIGATURE IJtSMALL LIGATURE IJ
rCAPITAL LETTER J WITH CIRCUMFLEXzhSMALL LETTER J WITH CIRCUMFLEXzfCAPITAL LETTER K WITH CEDILLA
zeSMALL LETTER K WITH CEDILLAnRAqCAPITAL LETTER L WITH ACUTEzcSMALL LETTER L WITH ACUTE
zaCAPITAL LETTER L WITH CEDILLAzeSMALL LETTER L WITH CEDILLAzcCAPITAL LETTER L WITH CARON
zcSMALL LETTER L WITH CARONzaCAPITAL LETTER L WITH MIDDLE DOTzhSMALL LETTER L WITH MIDDLE DOT
zfCAPITAL LETTER L WITH STROKEzdSMALL LETTER L WITH STROKEzbCAPITAL LETTER N WITH ACUTE
zcSMALL LETTER N WITH ACUTEzaCAPITAL LETTER N WITH CEDILLAzeSMALL LETTER N WITH CEDILLA
zcCAPITAL LETTER N WITH CARONzcSMALL LETTER N WITH CARONkPRECEDED BY APOSTROPHE
zmCAPITAL LETTER ENGsSMALL LETTER ENGqCAPITAL LETTER O WITH MACRONzdSMALL LETTER O WITH MACRON
zbCAPITAL LETTER O WITH BREVEzcSMALL LETTER O WITH BREVEzaCAPITAL LETTER O WITH DOUBLE ACUTE
zjSMALL LETTER O WITH DOUBLE ACUTEzhCAPITAL LIGATURE OEtSMALL LIGATURE OE
rCAPITAL LETTER R WITH ACUTEzcSMALL LETTER R WITH ACUTEzaCAPITAL LETTER R WITH CEDILLA
zeSMALL LETTER R WITH CEDILLAzcCAPITAL LETTER R WITH CARONzcSMALL LETTER R WITH CARON
zaCAPITAL LETTER S WITH ACUTEzcSMALL LETTER S WITH ACUTEzaCAPITAL LETTER S WITH CIRCUMFLEX
zhSMALL LETTER S WITH CIRCUMFLEXzfCAPITAL LETTER S WITH CEDILLAzeSMALL LETTER S WITH CEDILLA
zcCAPITAL LETTER S WITH CARONzcSMALL LETTER S WITH CARONzaCAPITAL LETTER T WITH CEDILLA
zeSMALL LETTER T WITH CEDILLAzcCAPITAL LETTER T WITH CARONzcSMALL LETTER T WITH CARON
zaCAPITAL LETTER T WITH STROKEzdSMALL LETTER T WITH STROKEzbCAPITAL LETTER U WITH TILDE
zcSMALL LETTER U WITH TILDEzaCAPITAL LETTER U WITH MACRONzdSMALL LETTER U WITH MACRON
zbCAPITAL LETTER U WITH BREVEzcSMALL LETTER U WITH BREVEzaCAPITAL LETTER U WITH RING ABOVE
zhSMALL LETTER U WITH RING ABOVEzfCAPITAL LETTER U WITH DOUBLE ACUTE
zjSMALL LETTER U WITH DOUBLE ACUTEzhCAPITAL LETTER U WITH OGONEKzdSMALL LETTER U WITH OGONEK
zbCAPITAL LETTER W WITH CIRCUMFLEXzhSMALL LETTER W WITH CIRCUMFLEX
zfCAPITAL LETTER Y WITH CIRCUMFLEXzhSMALL LETTER Y WITH CIRCUMFLEX
zfCAPITAL LETTER Y WITH DIAERESISqZ WITH ACUTEzcSMALL LETTER Z WITH ACUTE
zaCAPITAL LETTER Z WITH DOT ABOVEzgSMALL LETTER Z WITH DOT ABOVEzeCAPITAL LETTER Z WITH CARON
zcSMALL LETTER Z WITH CARONmLONG SgB WITH STROKEzbCAPITAL LETTER B WITH HOOKeTOPBAR
zdSMALL LETTER B WITH TOPBARzbCAPITAL LETTER TONE SIXxSMALL LETTER TONE SIXvCAPITAL LETTER OPEN O
gC WITH HOOKzbSMALL LETTER C WITH HOOKyCAPITAL LETTER AFRICAN DjD WITH HOOKeTOPBAR
zdSMALL LETTER D WITH TOPBARnTURNED DELTAzaCAPITAL LETTER REVERSED EkSCHWAfOPEN EgF WITH HOOK
zbSMALL LETTER F WITH HOOKyCAPITAL LETTER G WITH HOOKkAMMAuSMALL LETTER HVpCAPITAL LETTER IOTA
d WITH STROKEnK WITH HOOKzbSMALL LETTER K WITH HOOKlL WITH BARjAMBDA WITH STROKE
zgCAPITAL LETTER TURNED MiN WITH LEFT HOOKzgSMALL LETTER N WITH LONG RIGHT LEG
zjCAPITAL LETTER O WITH MIDDLE TILDEmHORNzbSMALL LETTER O WITH HORNyCAPITAL LETTER OI
rSMALL LETTER OIpCAPITAL LETTER P WITH HOOKzbSMALL LETTER P WITH HOOKyLETTER YR
jCAPITAL LETTER TONE TWOxSMALL LETTER TONE TWOvCAPITAL LETTER ESHsLETTER REVERSED ESH LOOP
ySMALL LETTER T WITH PALATAL HOOKzhCAPITAL LETTER T WITH HOOKzbSMALL LETTER T WITH HOOK
yCAPITAL LETTER T WITH RETROFLEX HOOKvU WITH HORNzbSMALL LETTER U WITH HORNyCAPITAL LETTER UPSILON
hV WITH HOOKlY WITH HOOKzbSMALL LETTER Y WITH HOOKyCAPITAL LETTER Z WITH STROKE
zdSMALL LETTER Z WITH STROKEzbCAPITAL LETTER EZHa REVERSEDzcSMALL LETTER EZH REVERSEDiWITH TAIL
zbLETTER TWO WITH STROKEwCAPITAL LETTER TONE FIVEySMALL LETTER TONE FIVE
wLETTER INVERTED GLOTTAL STOP WITH STROKEziWYNNeDENTAL CLICKmLATERAL CLICKnALVEOLAR CLICK
oRETROFLEX CLICKwCAPITAL LETTER DZ WITH CARONm WITH SMALL LETTER Z WITH CARON
zwSMALL LETTER DZ WITH CARONzbCAPITAL LETTER LJb WITH SMALL LETTER JzlSMALL LETTER LJ
pCAPITAL LETTER NJb WITH SMALL LETTER JzlSMALL LETTER NJpCAPITAL LETTER A WITH CARON
zcSMALL LETTER A WITH CARONzaCAPITAL LETTER I WITH CARONzcSMALL LETTER I WITH CARON
zaCAPITAL LETTER O WITH CARONzcSMALL LETTER O WITH CARONzaCAPITAL LETTER U WITH CARON
zcSMALL LETTER U WITH CARONzaCAPITAL LETTER U WITH DIAERESIS AND MACRON
zrSMALL LETTER U WITH DIAERESIS AND MACRONzpCAPITAL LETTER U WITH DIAERESIS AND ACUTE
zqSMALL LETTER U WITH DIAERESIS AND ACUTEzoCAPITAL LETTER U WITH DIAERESIS AND CARON
zqSMALL LETTER U WITH DIAERESIS AND CARONzoCAPITAL LETTER U WITH DIAERESIS AND GRAVE
zqSMALL LETTER U WITH DIAERESIS AND GRAVEzbTURNED EvCAPITAL LETTER A WITH DIAERESIS AND MACRON
zrSMALL LETTER A WITH DIAERESIS AND MACRONzpCAPITAL LETTER A WITH DOT ABOVE AND MACRON
zrSMALL LETTER A WITH DOT ABOVE AND MACRONzpCAPITAL LETTER AE WITH MACRON
zeSMALL LETTER AE WITH MACRONzcCAPITAL LETTER G WITH STROKEzdSMALL LETTER G WITH STROKE
zbCAPITAL LETTER G WITH CARONzcSMALL LETTER G WITH CARONzaCAPITAL LETTER K WITH CARON
zcSMALL LETTER K WITH CARONzaCAPITAL LETTER O WITH OGONEKzdSMALL LETTER O WITH OGONEK
zbCAPITAL LETTER O WITH OGONEK AND MACRONzoSMALL LETTER O WITH OGONEK AND MACRON
zmCAPITAL LETTER EZH WITH CARONzeSMALL LETTER EZH WITH CARONoJ WITH CARONzaCAPITAL LETTER DZ
b WITH SMALL LETTER ZzlSMALL LETTER DZpCAPITAL LETTER G WITH ACUTEzcSMALL LETTER G WITH ACUTE
zaCAPITAL LETTER HWAIRfWYNNeN WITH GRAVEzcSMALL LETTER N WITH GRAVE
zaCAPITAL LETTER A WITH RING ABOVE AND ACUTEzrSMALL LETTER A WITH RING ABOVE AND ACUTE
zpCAPITAL LETTER AE WITH ACUTEzdSMALL LETTER AE WITH ACUTEzbCAPITAL LETTER O WITH STROKE AND ACUTE
znSMALL LETTER O WITH STROKE AND ACUTEzlCAPITAL LETTER A WITH DOUBLE GRAVE
zjSMALL LETTER A WITH DOUBLE GRAVEzhCAPITAL LETTER A WITH INVERTED BREVE
zlSMALL LETTER A WITH INVERTED BREVEzjCAPITAL LETTER E WITH DOUBLE GRAVE
zjSMALL LETTER E WITH DOUBLE GRAVEzhCAPITAL LETTER E WITH INVERTED BREVE
zlSMALL LETTER E WITH INVERTED BREVEzjCAPITAL LETTER I WITH DOUBLE GRAVE
zjSMALL LETTER I WITH DOUBLE GRAVEzhCAPITAL LETTER I WITH INVERTED BREVE
zlSMALL LETTER I WITH INVERTED BREVEzjCAPITAL LETTER O WITH DOUBLE GRAVE
zjSMALL LETTER O WITH DOUBLE GRAVEzhCAPITAL LETTER O WITH INVERTED BREVE
zlSMALL LETTER O WITH INVERTED BREVEzjCAPITAL LETTER R WITH DOUBLE GRAVE
zjSMALL LETTER R WITH DOUBLE GRAVEzhCAPITAL LETTER R WITH INVERTED BREVE
zlSMALL LETTER R WITH INVERTED BREVEzjCAPITAL LETTER U WITH DOUBLE GRAVE
zjSMALL LETTER U WITH DOUBLE GRAVEzhCAPITAL LETTER U WITH INVERTED BREVE
zlSMALL LETTER U WITH INVERTED BREVEzjCAPITAL LETTER S WITH COMMA BELOW
ziSMALL LETTER S WITH COMMA BELOWzgCAPITAL LETTER T WITH COMMA BELOW
ziSMALL LETTER T WITH COMMA BELOWzgCAPITAL LETTER YOGHtSMALL LETTER YOGH
rCAPITAL LETTER H WITH CARONzcSMALL LETTER H WITH CARONzaCAPITAL LETTER N WITH LONG RIGHT LEG
zlSMALL LETTER D WITH CURLyCAPITAL LETTER OUrSMALL LETTER OUpCAPITAL LETTER Z WITH HOOK
zbSMALL LETTER Z WITH HOOKyCAPITAL LETTER A WITH DOT ABOVEzgSMALL LETTER A WITH DOT ABOVE
zeCAPITAL LETTER E WITH CEDILLAzeSMALL LETTER E WITH CEDILLA
zcCAPITAL LETTER O WITH DIAERESIS AND MACRONzrSMALL LETTER O WITH DIAERESIS AND MACRON
zpCAPITAL LETTER O WITH TILDE AND MACRONznSMALL LETTER O WITH TILDE AND MACRON
zlCAPITAL LETTER O WITH DOT ABOVEzgSMALL LETTER O WITH DOT ABOVE
zeCAPITAL LETTER O WITH DOT ABOVE AND MACRONzrSMALL LETTER O WITH DOT ABOVE AND MACRON
zpCAPITAL LETTER Y WITH MACRONzdSMALL LETTER Y WITH MACRONnL WITH CURLlN WITH CURLlT WITH CURL
lDOTLESS JiB DIGRAPHkQP DIGRAPHxCAPITAL LETTER A WITH STROKEnC WITH STROKE
zdSMALL LETTER C WITH STROKEzbCAPITAL LETTER L WITH BARkT WITH DIAGONAL STROKE
zmSMALL LETTER S WITH SWASH TAILrZ WITH SWASH TAILzfCAPITAL LETTER GLOTTAL STOP
zcSMALL LETTER GLOTTAL STOPzaCAPITAL LETTER B WITH STROKEnU BARfTURNED ViE WITH STROKE
zdSMALL LETTER E WITH STROKEzbCAPITAL LETTER J WITH STROKEzdSMALL LETTER J WITH STROKE
zbCAPITAL LETTER SMALL Q WITH HOOK TAILzmSMALL LETTER Q WITH HOOK TAIL
zeCAPITAL LETTER R WITH STROKEzdSMALL LETTER R WITH STROKEzbCAPITAL LETTER Y WITH STROKE
zdSMALL LETTER Y WITH STROKEnTURNED AiALPHAfTURNED ALPHAmB WITH HOOKlOPEN OgC WITH CURL
lD WITH TAILeHOOKlREVERSED EkSCHWAa WITH HOOKpOPEN EgREVERSED OPEN Ea WITH HOOK
zaCLOSED REVERSED OPEN EwDOTLESS J WITH STROKEvG WITH HOOKlSCRIPT GvLETTER SMALL CAPITAL G
wSMALL LETTER GAMMAfRAMS HORNjTURNED HiH WITH HOOKkENG WITH HOOKoI WITH STROKEmOTA
rLETTER SMALL CAPITAL IwSMALL LETTER L WITH MIDDLE TILDEmBELTeRETROFLEX HOOKuEZHeTURNED M
a WITH LONG LEGwM WITH HOOKlN WITH LEFT HOOKjRETROFLEX HOOKzjLETTER SMALL CAPITAL N
wSMALL LETTER BARRED OvLETTER SMALL CAPITAL OExSMALL LETTER CLOSED OMEGAmPHIdTURNED R
a WITH LONG LEGiHOOKsR WITH LONG LEGiTAILeFISHHOOKoEVERSED R WITH FISHHOOKzmLETTER SMALL CAPITAL R
bINVERTED RzgSMALL LETTER S WITH HOOKlESHdDOTLESS J WITH STROKE AND HOOKzfSQUAT REVERSED ESH
sESH WITH CURLnTURNED Th WITH RETROFLEX HOOKvU BARePSILONhV WITH HOOKlTURNED VbWbY
vLETTER SMALL CAPITAL YwSMALL LETTER Z WITH RETROFLEX HOOKoCURLlEZHa WITH CURL
zbLETTER GLOTTAL STOPmPHARYNGEAL VOICED FRICATIVEzcINVERTED GLOTTAL STOPvSTRETCHED C
lBILABIAL CLICKoSMALL CAPITAL BwSMALL LETTER CLOSED OPEN EzbLETTER SMALL CAPITAL G WITH HOOKlH
wSMALL LETTER J WITH CROSSED-TAILtTURNED KvLETTER SMALL CAPITAL LwSMALL LETTER Q WITH HOOK
yLETTER GLOTTAL STOP WITH STROKEyREVERSED GLOTTAL STOP WITH STROKEzpSMALL LETTER DZ DIGRAPH
jEZH DIGRAPHlZ DIGRAPH WITH CURLuTS DIGRAPHjESH DIGRAPHlC DIGRAPH WITH CURLuFENG DIGRAPH
mLS DIGRAPHjZ DIGRAPHxLETTER BILABIAL PERCUSSIVErDENTAL PERCUSSIVE
zbSMALL LETTER TURNED H WITH FISHHOOKa AND TAILzzaMODIFIER LETTER SMALL Ha WITH HOOKlJbRbTURNED R
a WITH HOOKsCAPITAL INVERTED RsWbYhPRIMEfDOUBLE PRIMEmTURNED COMMAmAPOSTROPHEkREVERSED COMMA
nIGHT HALF RINGpLEFT HALF RINGoGLOTTAL STOPmREVERSED GLOTTAL STOPvLEFT ARROWHEADoRIGHT ARROWHEAD
pUP ARROWHEADmDOWN ARROWHEADoCIRCUMFLEX ACCENTziCARONfMODIFIER LETTER VERTICAL LINEnMACRON
gACUTE ACCENTmGRAVE ACCENTmLOW VERTICAL LINEnMACRONgGRAVE ACCENTmACUTE ACCENTqTRIANGULAR COLON
qHALF TRIANGULAR COLONvCENTRED RIGHT HALF RINGpLEFT HALF RINGwUP TACKhDOWN TACKjPLUS SIGN
jMINUS SIGNzbBREVEfDOT ABOVEjRING ABOVEkOGONEKgSMALL TILDElDOUBLE ACUTE ACCENT
tMODIFIER LETTER RHOTIC HOOKlCROSS ACCENTmSMALL GAMMAfLbSbXbREVERSED GLOTTAL STOP
zcEXTRA-HIGH TONE BARtHIGH TONE BARnMID TONE BARmLOW TONE BARmEXTRA-LOW TONE BAR
sYIN DEPARTING TONE MARKwANG DEPARTING TONE MARKyVOICINGhUNASPIRATEDlDOUBLE APOSTROPHE
rLOW DOWN ARROWHEADoUP ARROWHEADmLEFT ARROWHEADoRIGHT ARROWHEADnNGiMIDDLE GRAVE ACCENT
mDOUBLE GRAVE ACCENTmACUTE ACCENTzbLOW TILDEjRAISED COLONmBEGIN HIGH TONEpEND HIGH TONE
nBEGIN LOW TONEoEND LOW TONEmSHELFfOPEN SHELFkLOW LEFT ARROWzfCOMBINING GRAVE ACCENTmACUTE ACCENT
mCIRCUMFLEX ACCENTrTILDEfMACRONgOVERLINEiBREVEfDOT ABOVEiIAERESISjHOOK ABOVEkRING ABOVE
kDOUBLE ACUTE ACCENTtCARONfVERTICAL LINE ABOVEtDOUBLE VERTICAL LINE ABOVEtGRAVE ACCENTtCANDRABINDU
lINVERTED BREVEoTURNED COMMA ABOVEsCOMMA ABOVElREVERSED COMMA ABOVEuCOMMA ABOVE RIGHT
rGRAVE ACCENT BELOWsACUTE ACCENT BELOWsLEFT TACK BELOWpRIGHT TACK BELOWqLEFT ANGLE ABOVEqHORN
eLEFT HALF RING BELOWuUP TACK BELOWnDOWN TACK BELOWpPLUS SIGN BELOWpMINUS SIGN BELOW
qPALATALIZED HOOK BELOWwRETROFLEX HOOK BELOWuDOT BELOWiIAERESIS BELOWpRING BELOWkCOMMA BELOW
kEDILLAhOGONEKgVERTICAL LINE BELOWtBRIDGE BELOWmINVERTED DOUBLE ARCH BELOWzbCARON BELOW
kIRCUMFLEX ACCENT BELOWxBREVE BELOWlINVERTED BREVE BELOWuTILDE BELOWlMACRON BELOWmLOW LINE
iDOUBLE LOW LINEpTILDE OVERLAYnSHORT STROKE OVERLAYuLONG STROKE OVERLAYtSHORT SOLIDUS OVERLAY
vLONG SOLIDUS OVERLAYuRIGHT HALF RING BELOWvINVERTED BRIDGE BELOWvSQUARE BELOWlEAGULL BELOW
nX ABOVEhVERTICAL TILDEoDOUBLE OVERLINEpGRAVE TONE MARKpACUTE TONE MARKpGREEK PERISPOMENIlKORONIS
hDIALYTIKA TONOSpYPOGEGRAMMENItBRIDGE ABOVEmEQUALS SIGN BELOWrDOUBLE VERTICAL LINE BELOW
zbLEFT ANGLE BELOWqNOT TILDE ABOVEpHOMOTHETIC ABOVEqALMOST EQUAL TO ABOVEvLEFT RIGHT ARROW BELOW
wUPWARDS ARROW BELOWtGRAPHEME JOINERpRIGHT ARROWHEAD ABOVEvLEFT HALF RING ABOVEuFERMATAhX BELOW
hLEFT ARROWHEAD BELOWuRIGHT ARROWHEAD BELOWfAND UP ARROWHEAD BELOWzhHALF RING ABOVE
vDOT ABOVE RIGHTpASTERISK BELOWoDOUBLE RING BELOWrZIGZAG ABOVEmDOUBLE BREVE BELOWg@861fMACRON
a BELOWmTILDEfINVERTED BREVEoRIGHTWARDS ARROW BELOWzeLATIN SMALL LETTER AbEbIbObUbCbDbHbMbRbTbVbX
zfGREEK CAPITAL LETTER HETAtSMALL LETTER HETArCAPITAL LETTER ARCHAIC SAMPI
zdSMALL LETTER ARCHAIC SAMPIzbNUMERAL SIGNmLOWER NUMERAL SIGNsCAPITAL LETTER PAMPHYLIAN DIGAMMA
ziSMALL LETTER PAMPHYLIAN DIGAMMAzgYPOGEGRAMMENI@890nSMALL REVERSED LUNATE SIGMA SYMBOL
zdDOTTED LUNATE SIGMA SYMBOLzbREVERSED DOTTED LUNATE SIGMA SYMBOLzqQUESTION MARK
nCAPITAL LETTER YOTsTONOS@900fDIALYTIKA TONOSpCAPITAL LETTER ALPHA WITH TONOSzgANO TELEIA
kCAPITAL LETTER EPSILON WITH TONOSrTA WITH TONOSoIOTA WITH TONOSpOMICRON WITH TONOS@908
sUPSILON WITH TONOS@910sOMEGA WITH TONOSzgSMALL LETTER IOTA WITH DIALYTIKA AND TONOS
zrCAPITAL LETTER ALPHAfBETAeGAMMAfDELTAfEPSILONhZETAeETAdTHETAfIOTAeKAPPAfLAMDAfMUcNUcXIcOMICRON
hPIcRHOdSIGMA@931fTAUdUPSILONhPHIdCHIdPSIdOMEGAfIOTA WITH DIALYTIKAtUPSILON WITH DIALYTIKA
zmSMALL LETTER ALPHA WITH TONOSqEPSILON WITH TONOSrTA WITH TONOSoIOTA WITH TONOS
pUPSILON WITH DIALYTIKA AND TONOSzhALPHAfBETAeGAMMAfDELTAfEPSILONhZETAeETAdTHETAfIOTAeKAPPAfLAMDA
fMUcNUcXIcOMICRONhPIcRHOdFINAL SIGMAlSIGMAfTAUdUPSILONhPHIdCHIdPSIdOMEGAfIOTA WITH DIALYTIKA
tUPSILON WITH DIALYTIKAwOMICRON WITH TONOSsUPSILON WITH TONOSsOMEGA WITH TONOSzeCAPITAL KAI SYMBOL
sBETA SYMBOLlTHETA SYMBOLmUPSILON WITH HOOK SYMBOLlACUTE AND HOOK SYMBOLvDIAERESIS AND HOOK SYMBOL
znPHI SYMBOLjI SYMBOLjKAI SYMBOLkLETTER ARCHAIC KOPPAuSMALL LETTER ARCHAIC KOPPAzbLETTER STIGMA
nSMALL LETTER STIGMAtLETTER DIGAMMAoSMALL LETTER DIGAMMAuLETTER KOPPAmSMALL LETTER KOPPA
sLETTER SAMPImSMALL LETTER SAMPIyCOPTIC CAPITAL LETTER SHEItSMALL LETTER SHEIrCAPITAL LETTER FEI
sSMALL LETTER FEIqCAPITAL LETTER KHEItSMALL LETTER KHEIrCAPITAL LETTER HORItSMALL LETTER HORI
rCAPITAL LETTER GANGIAvSMALL LETTER GANGIAtCAPITAL LETTER SHIMAuSMALL LETTER SHIMA
sCAPITAL LETTER DEIsSMALL LETTER DEIxGREEK KAPPA SYMBOLmRHO SYMBOLkLUNATE SIGMA SYMBOLsETTER YOT
kCAPITAL THETA SYMBOLuLUNATE EPSILON SYMBOLvREVERSED LUNATE EPSILON SYMBOLzfCAPITAL LETTER SHO
sSMALL LETTER SHOqCAPITAL LUNATE SIGMA SYMBOLsETTER SANsSMALL LETTER SANqRHO WITH STROKE SYMBOL
wCAPITAL REVERSED LUNATE SIGMA SYMBOLzdDOTTED LUNATE SIGMA SYMBOL
zbREVERSED DOTTED LUNATE SIGMA SYMBOLzyCYRILLIC CAPITAL LETTER IE WITH GRAVEmOcDJEdGJE
dUKRAINIAN IEmDZEdBYELORUSSIAN-UKRAINIAN IyYIcJEcLJEdNJEdTSHEeKJEdI WITH GRAVEmSHORT UhDZHEeAbBE
cVEcGHEdDEcIEcZHEcEcIbSHORT IhKAcELbMbNcObPEcERbScTEcUbEFcHAcTSEdCHEdSHAbCHAfHARD SIGNjYERU
eSOFT SIGNjEbYUbArSMALL LETTER AbBEcVEcGHEdDEcIEcZHEcEcIbSHORT IhKAcELbMbNcObPEcERbScTEcUbEFcHA
cTSEdCHEdSHAbCHAfHARD SIGNjYERUeSOFT SIGNjEbYUbAcIE WITH GRAVEmOcDJEdGJEdUKRAINIAN IEmDZE
dBYELORUSSIAN-UKRAINIAN IyYIcJEcLJEdNJEdTSHEeKJEdI WITH GRAVEmSHORT UhDZHErCAPITAL LETTER OMEGA
uSMALL LETTER OMEGAsCAPITAL LETTER YATsSMALL LETTER YATqCAPITAL LETTER IOTIFIED E
zaSMALL LETTER IOTIFIED ExCAPITAL LETTER LITTLE YUSzaSMALL LETTER LITTLE YUS
xCAPITAL LETTER IOTIFIED LITTLE YUSzjSMALL LETTER IOTIFIED LITTLE YUSzhCAPITAL LETTER BIG YUS
wSMALL LETTER BIG YUSuCAPITAL LETTER IOTIFIED BIG YUSzgSMALL LETTER IOTIFIED BIG YUS
zeCAPITAL LETTER KSIsSMALL LETTER KSIqCAPITAL LETTER PSIsSMALL LETTER PSIqCAPITAL LETTER FITA
tSMALL LETTER FITArCAPITAL LETTER IZHITSAwSMALL LETTER IZHITSA
uCAPITAL LETTER IZHITSA WITH DOUBLE GRAVE ACCENTzwSMALL LETTER IZHITSA WITH DOUBLE GRAVE ACCENT
zuCAPITAL LETTER UKrSMALL LETTER UKpCAPITAL LETTER ROUND OMEGAzbSMALL LETTER ROUND OMEGA
yCAPITAL LETTER OMEGA WITH TITLOzgSMALL LETTER OMEGA WITH TITLOzeCAPITAL LETTER OTrSMALL LETTER OT
pCAPITAL LETTER KOPPAuSMALL LETTER KOPPAsTHOUSANDS SIGNwOMBINING CYRILLIC TITLOfPALATALIZATION
oDASIA PNEUMATAoPSILI PNEUMATAnOKRYTIEiHUNDRED THOUSANDS SIGNwMILLIONS SIGN
zgYRILLIC CAPITAL LETTER SHORT I WITH TAILzhSMALL LETTER SHORT I WITH TAIL
zfCAPITAL LETTER SEMISOFT SIGNzdSMALL LETTER SEMISOFT SIGNzbCAPITAL LETTER ER WITH TICK
zcSMALL LETTER ER WITH TICKzaCAPITAL LETTER GHE WITH UPTURNzfSMALL LETTER GHE WITH UPTURN
zdCAPITAL LETTER GHE WITH STROKEzfSMALL LETTER GHE WITH STROKE
zdCAPITAL LETTER GHE WITH MIDDLE HOOKzkSMALL LETTER GHE WITH MIDDLE HOOK
ziCAPITAL LETTER ZHE WITH DESCENDERziSMALL LETTER ZHE WITH DESCENDER
zgCAPITAL LETTER ZE WITH DESCENDERzhSMALL LETTER ZE WITH DESCENDER
zfCAPITAL LETTER KA WITH DESCENDERzhSMALL LETTER KA WITH DESCENDER
zfCAPITAL LETTER KA WITH VERTICAL STROKEznSMALL LETTER KA WITH VERTICAL STROKE
zlCAPITAL LETTER KA WITH STROKEzeSMALL LETTER KA WITH STROKEzcCAPITAL LETTER BASHKIR KA
zaSMALL LETTER BASHKIR KAxCAPITAL LETTER EN WITH DESCENDERzhSMALL LETTER EN WITH DESCENDER
zfCAPITAL LIGATURE EN GHExSMALL LIGATURE EN GHEvCAPITAL LETTER PE WITH MIDDLE HOOK
zjSMALL LETTER PE WITH MIDDLE HOOKzhCAPITAL LETTER ABKHASIAN HAzcSMALL LETTER ABKHASIAN HA
zaCAPITAL LETTER ES WITH DESCENDERzhSMALL LETTER ES WITH DESCENDER
zfCAPITAL LETTER TE WITH DESCENDERzhSMALL LETTER TE WITH DESCENDERzfCAPITAL LETTER STRAIGHT U
zaSMALL LETTER STRAIGHT UxCAPITAL LETTER STRAIGHT U WITH STROKE
zmSMALL LETTER STRAIGHT U WITH STROKEzkCAPITAL LETTER HA WITH DESCENDER
zhSMALL LETTER HA WITH DESCENDERzfCAPITAL LIGATURE TE TSExSMALL LIGATURE TE TSE
vCAPITAL LETTER CHE WITH DESCENDERziSMALL LETTER CHE WITH DESCENDER
zgCAPITAL LETTER CHE WITH VERTICAL STROKEzoSMALL LETTER CHE WITH VERTICAL STROKE
zmCAPITAL LETTER SHHAtSMALL LETTER SHHArCAPITAL LETTER ABKHASIAN CHEzdSMALL LETTER ABKHASIAN CHE
zbCAPITAL LETTER ABKHASIAN CHE WITH DESCENDERzsSMALL LETTER ABKHASIAN CHE WITH DESCENDER
zqLETTER PALOCHKApCAPITAL LETTER ZHE WITH BREVEzeSMALL LETTER ZHE WITH BREVE
zcCAPITAL LETTER KA WITH HOOKzcSMALL LETTER KA WITH HOOKzaCAPITAL LETTER EL WITH TAIL
zcSMALL LETTER EL WITH TAILzaCAPITAL LETTER EN WITH HOOKzcSMALL LETTER EN WITH HOOK
zaCAPITAL LETTER EN WITH TAILzcSMALL LETTER EN WITH TAILzaCAPITAL LETTER KHAKASSIAN CHE
zeSMALL LETTER KHAKASSIAN CHEzcCAPITAL LETTER EM WITH TAILzcSMALL LETTER EM WITH TAILmPALOCHKA
vCAPITAL LETTER A WITH BREVEzcSMALL LETTER A WITH BREVEzaCAPITAL LETTER A WITH DIAERESIS
zgSMALL LETTER A WITH DIAERESISzeCAPITAL LIGATURE A IEvSMALL LIGATURE A IE
tCAPITAL LETTER IE WITH BREVEzdSMALL LETTER IE WITH BREVEzbCAPITAL LETTER SCHWAuSMALL LETTER SCHWA
sCAPITAL LETTER SCHWA WITH DIAERESISzkSMALL LETTER SCHWA WITH DIAERESIS
ziCAPITAL LETTER ZHE WITH DIAERESISziSMALL LETTER ZHE WITH DIAERESIS
zgCAPITAL LETTER ZE WITH DIAERESISzhSMALL LETTER ZE WITH DIAERESISzfCAPITAL LETTER ABKHASIAN DZE
zdSMALL LETTER ABKHASIAN DZEzbCAPITAL LETTER I WITH MACRONzdSMALL LETTER I WITH MACRON
zbCAPITAL LETTER I WITH DIAERESISzgSMALL LETTER I WITH DIAERESISzeCAPITAL LETTER O WITH DIAERESIS
zgSMALL LETTER O WITH DIAERESISzeCAPITAL LETTER BARRED OxSMALL LETTER BARRED O
vCAPITAL LETTER BARRED O WITH DIAERESISznSMALL LETTER BARRED O WITH DIAERESIS
zlCAPITAL LETTER E WITH DIAERESISzgSMALL LETTER E WITH DIAERESISzeCAPITAL LETTER U WITH MACRON
zdSMALL LETTER U WITH MACRONzbCAPITAL LETTER U WITH DIAERESISzgSMALL LETTER U WITH DIAERESIS
zeCAPITAL LETTER U WITH DOUBLE ACUTEzjSMALL LETTER U WITH DOUBLE ACUTE
zhCAPITAL LETTER CHE WITH DIAERESISziSMALL LETTER CHE WITH DIAERESIS
zgCAPITAL LETTER GHE WITH DESCENDERziSMALL LETTER GHE WITH DESCENDER
zgCAPITAL LETTER YERU WITH DIAERESISzjSMALL LETTER YERU WITH DIAERESIS
zhCAPITAL LETTER GHE WITH STROKE AND HOOKzoSMALL LETTER GHE WITH STROKE AND HOOK
zmCAPITAL LETTER HA WITH HOOKzcSMALL LETTER HA WITH HOOKzaCAPITAL LETTER HA WITH STROKE
zeSMALL LETTER HA WITH STROKEzcCAPITAL LETTER KOMI DEwSMALL LETTER KOMI DEuCAPITAL LETTER KOMI DJE
xSMALL LETTER KOMI DJEvCAPITAL LETTER KOMI ZJExSMALL LETTER KOMI ZJEvCAPITAL LETTER KOMI DZJE
ySMALL LETTER KOMI DZJEwCAPITAL LETTER KOMI LJExSMALL LETTER KOMI LJEvCAPITAL LETTER KOMI NJE
xSMALL LETTER KOMI NJEvCAPITAL LETTER KOMI SJExSMALL LETTER KOMI SJEvCAPITAL LETTER KOMI TJE
xSMALL LETTER KOMI TJEvCAPITAL LETTER REVERSED ZEzbSMALL LETTER REVERSED ZE
yCAPITAL LETTER EL WITH HOOKzcSMALL LETTER EL WITH HOOKzaCAPITAL LETTER LHAsSMALL LETTER LHA
qCAPITAL LETTER RHAsSMALL LETTER RHAqCAPITAL LETTER YAEsSMALL LETTER YAEqCAPITAL LETTER QA
rSMALL LETTER QApCAPITAL LETTER WErSMALL LETTER WEpCAPITAL LETTER ALEUT KAxSMALL LETTER ALEUT KA
vCAPITAL LETTER EL WITH MIDDLE HOOKzjSMALL LETTER EL WITH MIDDLE HOOK
zhCAPITAL LETTER EN WITH MIDDLE HOOKzjSMALL LETTER EN WITH MIDDLE HOOK
zhCAPITAL LETTER PE WITH DESCENDERzhSMALL LETTER PE WITH DESCENDER
zfCAPITAL LETTER SHHA WITH DESCENDERzjSMALL LETTER SHHA WITH DESCENDER
zhCAPITAL LETTER EN WITH LEFT HOOKzhSMALL LETTER EN WITH LEFT HOOKzfCAPITAL LETTER DZZHE
uSMALL LETTER DZZHEsCAPITAL LETTER DCHEtSMALL LETTER DCHErCAPITAL LETTER EL WITH DESCENDER
zhSMALL LETTER EL WITH DESCENDERzoARMENIAN CAPITAL LETTER AYB@1329dBENdGIMdDAcECHdZAcEHbTcTOcZHE
dINIdLIWNeXEHdCAcKENdHOcJAcGHADeCHEHeMENdYIcNOWdSHAdVOcCHAdPEHdJHEHeRAcSEHdVEWdTIWNeREHdCOcYIWN
ePIWReKEHdOHcFEHsMODIFIER LETTER LEFT HALF RING@1369zfAPOSTROPHEkEMPHASIS MARKmXCLAMATION MARK
qCOMMAfQUESTION MARKnABBREVIATION MARKrSMALL LETTER TURNED AYBkAYBdBENdGIMdDAcECHdZAcEHbTcTOcZHE
dINIdLIWNeXEHdCAcKENdHOcJAcGHADeCHEHeMENdYIcNOWdSHAdVOcCHAdPEHdJHEHeRAcSEHdVEWdTIWNeREHdCOcYIWN
ePIWReKEHdOHcFEHjIGATURE ECH YIWNqETTER YI WITH STROKEzcFULL STOPjHYPHEN
pRIGHT-FACING ARMENIAN ETERNITY SIGN@1421zkLEFT-FACING ARMENIAN ETERNITY SIGNzjARMENIAN DRAM SIGN
sHEBREW ACCENT ETNAHTA@1425hSEGOLeHALSHELETkZAQEF QATANfGADOLlTIPEHAgREVIAfZARQAfPASHTAgYETIV
fTEVIRfGERESHa MUQDAMkSHAYIMjQARNEY PARAlTELISHA GEDOLAoPAZERfATNAH HAFUKHmMUNAHeAHAPAKHhERKHA
a KEFULAnDARGAfQADMAfTELISHA QETANAoYERAH BEN YOMOoOLEdILUYeDEHIeZINORmMARK MASORA CIRCLE
sPOINT SHEVAfHATAF SEGOLfPATAHfQAMATSlIRIQfTSEREfSEGOLfPATAHfQAMATSgHOLAMa HASER FOR VAVtQUBUTS
gDAGESH OR MAPIQpMETEGkUNCTUATION MAQAFqOINT RAFEjUNCTUATION PASEQqOINT SHIN DOThIN DOT
mUNCTUATION SOF PASUQvMARK UPPER DOTjLOWER DOToPUNCTUATION NUN HAFUKHAwOINT QAMATS QATAN
sLETTER ALEF@1488eBETdGIMELfDALETfHEcVAVdZAYINfHETdTETdYODdFINAL KAFjKAFdLAMEDfFINAL MEMjMEM
dFINAL NUNjNUNdSAMEKHgAYINeFINAL PEiPEcFINAL TSADIlTSADIfQOFdRESHeSHINeTAVkYOD TRIANGLE@1519
mLIGATURE YIDDISH DOUBLE VAVkVAV YODhDOUBLE YODzcPUNCTUATION GERESHdSHAYIM
zdARABIC NUMBER SIGN@1536lSIGN SANAHkFOOTNOTE MARKERpSIGN SAFHAdMVATlNUMBER MARK ABOVE
s-INDIC CUBE ROOTjFOURTH ROOTs RAYe-INDIC PER MILLE SIGNkTEN THOUSAND SIGNziFGHANI SIGN
lRABIC COMMAfDATE SEPARATORoPOETIC VERSE SIGNrSIGN MISRAfSALLALLAHOU ALAYHE WASSALLAM
zdALAYHE ASSALLAMpRAHMATULLAH ALAYHEqDI ALLAHOU ANHUrTAKHALLUSnMALL HIGH TAH
dLIGATURE ALEF WITH LAM WITH YEHzgZAINjFATHAfDAMMAfKASRAkEMICOLONjLETTER MARKlEND OF TEXT MARK
qTRIPLE DOT PUNCTUATION MARKzcQUESTION MARKnLETTER KASHMIRI YEHmHAMZAfALEF WITH MADDA ABOVE
lHAMZA ABOVEvWAW WITH HAMZA ABOVEuALEF WITH HAMZA BELOWvYEH WITH HAMZA ABOVEuALEFeBEHdTEH MARBUTA
i@1578cHEHeJEEMeHAHdKHAHeDALdTHALeREHdZAINeSEENdHEENeADdDADdTAHdZAHdAINdGHAIN
fKEHEH WITH TWO DOTS ABOVEnHREE DOTS BELOWzcFARSI YEH WITH INVERTED VkTWO DOTS ABOVE
nHREE DOTS ABOVEznTATWEELhLETTER FEHdQAFdKAFdLAMdMEEMeNOONeHEHdWAWdALEF MAKSURAmYEHkFATHATAN
iDAMMATANiKASRATANiFATHAfDAMMAfKASRAfSHADDAfUKUNfMADDAH ABOVEmHAMZA ABOVEfBELOWlSUBSCRIPT ALEF
oINVERTED DAMMAoMARK NOON GHUNNAqZWARAKAYiVOWEL SIGN SMALL V ABOVEnINVERTED SMALL V ABOVE
wDOT BELOWuREVERSED DAMMAoFATHA WITH TWO DOTStWAVY HAMZA BELOWr-INDIC DIGIT ZEROeONEdTWOcHREEfFOUR
dIVEeSIXcEVENfEIGHTfNINEr PERCENT SIGNmDECIMAL SEPARATORrTHOUSANDS SEPARATORtFIVE POINTED STAR
rLETTER DOTLESS BEHdQAFlSUPERSCRIPT ALEFqALEF WASLAeITH WAVY HAMZA ABOVEfBELOWzbHIGH HAMZAa ALEF
eWAWoU WITH HAMZA ABOVEsHIGH HAMZA YEHoTTEHaEHgBEEHeTEH WITH RINGeTHREE DOTS ABOVE DOWNWARDSzkPEH
dTEHEHfBEHEHfHAH WITH HAMZA ABOVElTWO DOTS VERTICAL ABOVEzhNYEHeDYEHeHAH WITH THREE DOTS ABOVE
zaTCHEHaEHhDDALdAL WITH RINGeDOT BELOWa AND SMALL TAHzfHALeDAHALfUL
cAL WITH THREE DOTS ABOVE DOWNWARDSzbFOUR DOTS ABOVEyRREHdEH WITH SMALL VhRINGeDOT BELOW
jSMALL V BELOWnDOT BELOW AND DOT ABOVExTWO DOTS ABOVExJEHdREH WITH FOUR DOTS ABOVE
ySEEN WITH DOT BELOW AND DOT ABOVExTHREE DOTS BELOWa AND THREE DOTS ABOVEzvAD WITH TWO DOTS BELOW
nHREE DOTS ABOVEzaTAH WITH THREE DOTS ABOVEzaAIN WITH THREE DOTS ABOVEzaDOTLESS FEH
lFEH WITH DOT MOVED BELOWlBELOWsVEHdFEH WITH THREE DOTS BELOWzaPEHEHfQAF WITH DOT ABOVE
jTHREE DOTS ABOVEzaKEHEHfSWASH KAFjKAF WITH RINGeDOT ABOVEsNGcKAF WITH THREE DOTS BELOWzaGAF
a WITH RINGnNGOEHfGAF WITH TWO DOTS BELOWwUEHdAF WITH THREE DOTS ABOVEzaLAM WITH SMALL VhDOT ABOVE
jTHREE DOTS ABOVEfBELOWzaNOON WITH DOT BELOWoGHUNNAlRNOONfNOON WITH RINGeTHREE DOTS ABOVE
zbHEH DOACHASHMEEpTCHEH WITH DOT ABOVEuHEH WITH YEH ABOVEoGOALa WITH HAMZA ABOVEzaTEH MARBUTA GOAL
qWAW WITH RINGnKIRGHIZ OEkOEcUbYUcKIRGHIZ YUkWAW WITH TWO DOTS ABOVExVEcFARSI YEHjYEH WITH TAIL
eSMALL VqWAW WITH DOT ABOVEsEbYEH WITH THREE DOTS BELOWvBARREEa WITH HAMZA ABOVEzjFULL STOP
jLETTER AEjSMALL HIGH LIGATURE SAD WITH LAM WITH ALEF MAKSURAzfQAF WITH LAM WITH ALEF MAKSURA
zoMEEM INITIAL FORMrLAM ALEFiJEEMeTHREE DOTSkSEENpEND OF AYAHlSTART OF RUB EL HIZB
tMALL HIGH ROUNDED ZEROmUPRIGHT RECTANGULAR ZEROyDOTLESS HEAD OF KHAHuMEEM ISOLATED FORMxLOW SEEN
iHIGH MADDAkWAWdYEHdHIGH YEHdNOONpPLACE OF SAJDAHpEMPTY CENTRE LOW STOPiHIGH STOP
wROUNDED HIGH STOP WITH FILLED CENTREzlSMALL LOW MEEMoLETTER DAL WITH INVERTED V
tREH WITH INVERTED VziEXTENDED ARABIC-INDIC DIGIT ZEROeONEdTWOcHREEfFOURdIVEeSIXcEVENfEIGHTfNINE
zhARABIC LETTER SHEEN WITH DOT BELOWuDAD WITH DOT BELOWsGHAIN WITH DOT BELOW
zcSIGN SINDHI AMPERSANDjPOSTPOSITION MENzdLETTER HEH WITH INVERTED VziSYRIAC END OF PARAGRAPH
qSUPRALINEAR FULL STOPtBLINEAR FULL STOPrPRALINEAR COLONpBLINEAR COLONpHORIZONTAL COLON
qCOLON SKEWED LEFTeRIGHTsSUPRALINEAR COLON SKEWED LEFTzcBLINEAR COLON SKEWED RIGHTzdCONTRACTION
lHARKLEAN OBELUSgMETOBELUSjASTERISCUStABBREVIATION MARK@1807rLETTER ALAPHfSUPERSCRIPT ALAPHrBETH
eGAMALa GARSHUNIoDALATHfOTLESS DALATH RISHtHEcWAWdZAINeHETHeTETHa GARSHUNInYUDHa HEhKAPHeLAMADH
gMIMdNUNdSEMKATHhFINAL SEMKATHnEbPEcREVERSED PElSADHEfQAPHeRISHeSHINeTAWdPERSIAN BHETHfGHAMAL
gDHALATHwPTHAHA ABOVEfBELOWfDOTTEDnZQAPHA ABOVEfBELOWfDOTTEDnRBASA ABOVEfBELOW
lDOTTED ZLAMA HORIZONTALkANGULARuHBASA ABOVEfBELOWg-ESASA DOTTEDsESASA ABOVEfBELOWlRWAHA
fFEMININE DOTmQUSHSHAYAjRUKKAKHAiTWO VERTICAL DOTS ABOVEfBELOWwHREE DOTS ABOVEfBELOW
qOBLIQUE LINE ABOVEfBELOWsMUSICfBARREKHhLETTER SOGDIAN ZHAIN@1869fKHAPHfFE
yARABIC LETTER BEH WITH THREE DOTS HORIZONTALLY BELOWzeDOT BELOW AND THREE DOTS ABOVE
zfTHREE DOTS POINTING UPWARDS BELOWa AND TWO DOTS ABOVEzzbWO DOTS BELOW AND DOT ABOVE
zdINVERTED SMALL V BELOWwSMALL VqHAH WITH TWO DOTS ABOVEnHREE DOTS POINTING UPWARDS BELOW
zrDAL WITH TWO DOTS VERTICALLY BELOW AND SMALL TAHzoINVERTED SMALL V BELOWzgREH WITH STROKE
pSEEN WITH FOUR DOTS ABOVEzaAIN WITH TWO DOTS ABOVEnHREE DOTS POINTING DOWNWARDS ABOVE
zjWO DOTS VERTICALLY ABOVEzjFEH WITH TWO DOTS BELOWnHREE DOTS POINTING UPWARDS BELOW
zrKEHEH WITH DOT ABOVEjTHREE DOTS ABOVEfPOINTING UPWARDS BELOWztMEEM WITH DOT ABOVEfBELOW
tNOON WITH TWO DOTS BELOWoSMALL TAHdVrLAM WITH BARmREH WITH TWO DOTS VERTICALLY ABOVEzaHAMZA ABOVE
uSEEN WITH TWO DOTS VERTICALLY ABOVEzkHAH WITH SMALL ARABIC LETTER TAH BELOWfAND TWO DOTS
zuSEEN WITH SMALL ARABIC LETTER TAH AND TWO DOTSzvREH WITH SMALL ARABIC LETTER TAH AND TWO DOTS
zuHAH WITH SMALL ARABIC LETTER TAH ABOVEznALEF WITH EXTENDED ARABIC-INDIC DIGIT TWO ABOVE
iHREE ABOVEzyFARSI YEH WITH EXTENDED ARABIC-INDIC DIGIT TWO ABOVEiHREE ABOVElFOUR BELOW
zzdWAW WITH EXTENDED ARABIC-INDIC DIGIT TWO ABOVEiHREE ABOVE
zxYEH BARREE WITH EXTENDED ARABIC-INDIC DIGIT TWO ABOVEiHREE ABOVE
zzfHAH WITH EXTENDED ARABIC-INDIC DIGIT FOUR BELOW
zwSEEN WITH EXTENDED ARABIC-INDIC DIGIT FOUR ABOVEznINVERTED VuKAF WITH TWO DOTS ABOVE
zmTHAANA LETTER HAAdSHAVIYANIjNOONUfRAAdBAAdLHAVIYANIjKAAFUfALIFUfVAAVUfMEEMUfFAAFUfDHAALUgTHAA
eLAAMUfGAAFUeNAVIYANIjSEENUfDAVIYANIiZAVIYANIiTAVIYANIiYAAdPAVIYANIiJAVIYANIiCHAVIYANIjTTAAeHHAA
eKHAAeTHAALUgZAAdSHEENUfAADHUgDAADHUgTOcZOcAINUeGHAINUgQAAFUfWAAVUmABAFILIgABAAFILIjIBIFILI
hEEBEEFILIjUBUFILIhOOBOOFILIjEBEFILIgYBEYFILIjOBOFILIgABOAFILIjSUKUNfLETTER NAA
rNKO DIGIT ZERO@1984eONEdTWOcHREEfFOURdIVEeSIXcEVENfEIGHTfNINEkLETTER AbEEcIbEbUbOOb@2000
bDAGBASINNAkNbBAcPAcTAcJAcCHAdDAcRAbRAdSAcGBAdFAcKAcLAcNA WOLOSOjMAcNYAcAcHAcWAcYAcNYA WOLOSO
kJONA JAcCHAdRAoCOMBINING SHORT HIGH TONEjLOW TONEiRISING TONErLONG DESCENDING TONEpHIGH TONE
jLOW TONEiRISING TONEqNASALIZATION MARKrDOUBLE DOT ABOVEzbHIGH TONE APOSTROPHEuLOW TONE APOSTROPHE
tSYMBOL OO DENNENjGBAKURUNENrCOMMAfEXCLAMATION MARKqLAJANYALANkDANTAYALAN@2045jOROME SIGN
lTAMAN SIGNoSAMARITAN LETTER ALAFeBITdGAMANfDALATfIYcBAAdZENdITcTITdYUTdKAAFeLABATfMIMdNUNdSINGAAT
hINcFIcTSAADIYhQUFdRISHeSHANeTAAFlMARK INa-ALAFhOCCLUSIONjDAGESHkODIFIER LETTER EPENTHETIC YUT
zeARK EPENTHETIC YUTtVOWEL SIGN LONG EgEbOVERLONG AAlLONG AAhAAcOVERLONG AkLONG AgA
mMODIFIER LETTER SHORT AxVOWEL SIGN SHORT AhLONG UgUmMODIFIER LETTER IrVOWEL SIGN LONG IgIbObSUKUN
qMARK NEQUDAAmPUNCTUATION NEQUDAA@2096hAFSAAQfNGEDfBAUdATMAAUgSHIYYAALAAwABBREVIATION MARK
rPUNCTUATION MELODIC QITSAnZIQAAfQITSAfZAEFeTURUeARKAANUhSOF MASHFAATmANNAAU
zdMANDAIC LETTER HALQA@2112fABbGbDbHcUSHENNAhAZcITcATTcKSAc@2122bLbMbNbScINcAPbSZcQbRbSHcT
cDUSHENNAiKADdAINkAFFRICATION MARKqVOCALIZATION MARKrGEMINATION MARKpPUNCTUATION@2142
tSYRIAC LETTER MALAYALAM NGA@2144dJAcNYAdTTAdNNAbNAeBHAdRAcLLAbLAeSSA
zcARABIC LETTER ALEF WITH ATTACHED FATHA@2160fTOP RIGHT FATHAyRIGHT MIDDLE STROKE
tLEFT MIDDLE STROKEsATTACHED KASRAfBOTTOM RIGHT KASRAsROUND DOT ABOVEoIGHT ROUND DOT
pLEFT ROUND DOToROUND DOT BELOWyDOT ABOVEjATTACHED TOP RIGHT FATHA AND DOT ABOVE
znRIGHT MIDDLE STROKE AND DOT ABOVEziATTACHED BOTTOM RIGHT KASRA AND DOT ABOVE
zhTOP RIGHT FATHA AND LEFT RINGznRIGHT MIDDLE STROKE AND LEFT RING
ziATTACHED BOTTOM RIGHT KASRA AND LEFT RINGzhRIGHT HAMZAlLEFT HAMZAzlTATWEEL WITH OVERSTRUCK HAMZA
fWAWoTWO DOTS BELOWzcLETTER THIN YEHpBASELINE ROUND DOTsRAISED ROUND DOT
qLETTER NOON WITH INVERTED SMALL VzbHAH WITH INVERTED SMALL V BELOWzgTAH WITH DOT BELOW
jTHREE DOTS BELOWzaKEHEH WITH TWO DOTS VERTICALLY BELOWzsVERTICAL TAILnPOUND MARK ABOVE@2192
pIASTRE MARK ABOVEsSMALL HIGH WORD AL-JUZ@2200qLOW WORD ISHMAAMgMAALAgTASHEELwMADDA WAAJIB
mSUPERSCRIPT ALEF MOKHASSASzbDOUBLED MADDAnHALF MADDA OVER MADDAvLETTER BEH WITH SMALL V BELOW
nHAMZA ABOVEuJEEM WITH TWO DOTS ABOVEyTAH WITH TWO DOTS ABOVE
xFEH WITH DOT BELOW AND THREE DOTS ABOVEzoQAF WITH DOT BELOWsLAM WITH DOUBLE BAR
tMEEM WITH THREE DOTS ABOVEzbYEH WITH TWO DOTS BELOW AND HAMZA ABOVElDOT ABOVEzmREH WITH LOOP
nWAW WITH DOT WITHINtROHINGYA YEHmLOW ALEFiDAL WITH THREE DOTS BELOWzaSAD WITH THREE DOTS BELOW
zaGAF WITH INVERTED STROKEySTRAIGHT WAWmZAIN WITH INVERTED V ABOVEzbAIN WITH THREE DOTS BELOW
zaKAF WITH DOT BELOWsQAF WITH DOT BELOW AND NO DOTS ABOVEzlBEH WITH SMALL MEEM ABOVE
zaPEH WITH SMALL MEEM ABOVEzaTEH WITH SMALL TEH ABOVEyREH WITH SMALL NOON ABOVE
zaYEH WITH TWO DOTS BELOW AND SMALL NOON ABOVEztAFRICAN FEHdQAFdNOONmPEH WITH SMALL V
qTEH WITH SMALL VpTEH WITH SMALL VqCHEH WITH SMALL VsKEHEH WITH SMALL V
sGHAIN WITH THREE DOTS ABOVEzcAFRICAN QAF WITH THREE DOTS ABOVEziJEEM WITH THREE DOTS ABOVEfBELOW
zbLAM WITH SMALL ARABIC LETTER TAH ABOVEznGRAFlSMALL FARSI YEHjHIGH FARSI YEH
jYEH BARREE WITH TWO DOTS BELOWzfWORD SAHiZAHoLARGE ROUND DOT ABOVEfBELOWvSUKUN BELOW
lLARGE CIRCLE BELOWmROUND DOT INSIDE CIRCLE BELOWzkSMALL LOW WAWhHIGH WORD AR-RUBlSADdAINdQAF
dNOON WITH KASRAuLOW NOON WITH KASRAtHIGH WORD ATH-THALATHAlS-SAJDAhN-NISFhSAKTAfQIFdWAQFA
kFOOTNOTE MARKERpSIGN SAFHAvDISPUTED END OF AYAHuTURNED DAMMA BELOWsCURLY FATHAfDAMMAfKASRA
fFATHATANiDAMMATANiKASRATANoTONE ONE DOT ABOVEnTWO DOTS ABOVEoLOOP ABOVEkONE DOT BELOW
nTWO DOTS BELOWoLOOP BELOWpOPEN FATHATANiDAMMATANiKASRATANnSMALL HIGH WAWoFATHA WITH RING
eDOT ABOVEuKASRA WITH DOT BELOWuLEFT ARROWHEAD ABOVEuRIGHT ARROWHEAD ABOVEvLEFT ARROWHEAD BELOW
uRIGHT ARROWHEAD BELOWvDOUBLE RIGHT ARROWHEAD ABOVEa WITH DOTzmRIGHT ARROWHEAD ABOVE WITH DOT
zfDAMMA WITH DOToMARK SIDEWAYS NOON GHUNNAzhDEVANAGARI SIGN INVERTED CANDRABINDUuCANDRABINDU
lANUSVARAiVISARGAmLETTER SHORT AhAaAcIaIcUaUcVOCALIC RbLjCANDRA EiSHORT EhEbAIcCANDRA OiSHORT OhO
bAUcKAbHAdGAbHAdNGAdCAbHAdJAbHAdNYAdTTAbHAeDDAbHAeNNAdTAbHAdDAbHAdNAbNNAePAbHAdBAbHAdMAcYAcRAbRA
dLAbLAbLAeVAcSHAcSAcAcHAjVOWEL SIGN OEbOEoSIGN NUKTAfAVAGRAHAnVOWEL SIGN AAcIaIcUaUcVOCALIC RaR
kCANDRA EiSHORT EhEbAIcCANDRA OiSHORT OhObAUnSIGN VIRAMAlVOWEL SIGN PRISHTHAMATRA EpAWnOM
cSTRESS SIGN UDATTAgANUDATTAuGRAVE ACCENTmACUTE ACCENTmVOWEL SIGN CANDRA LONG EnUEbUEoLETTER QA
cKHHAeGHHAeZAcDDDHAfRHAdFAcYYAdVOCALIC RRcLLrVOWEL SIGN VOCALIC LaLvDANDAeOUBLE DANDAlIGIT ZERO
eONEdTWOcHREEfFOURdIVEeSIXcEVENfEIGHTfNINEkABBREVIATION SIGNrSIGN HIGH SPACING DOTvLETTER CANDRA A
iOEbOEdAWcUEbUEdMARWARI DDAlZHAdHEAVY YAiGGAdJJAdGLOTTAL STOPmDDDAeBBAvBENGALI ANJI
eSIGN CANDRABINDUlANUSVARAiVISARGAmLETTER A@2437aAcIaIcUaUcVOCALIC RbLjE@2447bAIcO@2451bAUcKAbHA
dGAbHAdNGAdCAbHAdJAbHAdNYAdTTAbHAeDDAbHAeNNAdTAbHAdDAbHAdNAcPA@2474bHAdBAbHAdMAcYAcRAcLA@2482
cSHA@2486cSAcAcHAjSIGN NUKTA@2492fAVAGRAHAnVOWEL SIGN AAcIaIcUaUcVOCALIC RaRkE@2503bAIcO@2507bAU
nSIGN VIRAMAlLETTER KHANDA TAqAU LENGTH MARK@2519oLETTER RRA@2524cHAdYYA@2527dVOCALIC RRcLL
rVOWEL SIGN VOCALIC LaLvDIGIT ZERO@2534eONEdTWOcHREEfFOURdIVEeSIXcEVENfEIGHTfNINE
kLETTER RA WITH MIDDLE DIAGONALpLOWER DIAGONALzeRUPEE MARKeSIGNkCURRENCY NUMERATOR ONEdTWOcHREE
fFOUReONE LESS THAN THE DENOMINATORzoDENOMINATOR SIXTEENzdISSHARgGANDA MARKkLETTER VEDIC ANUSVARA
vABBREVIATION SIGNrSANDHI MARKtGURMUKHI SIGN ADAK BINDI@2561kBINDIfVISARGAmLETTER A@2565aAcIaIcUaU
cEE@2575cAIcOO@2579cAUcKAbHAdGAbHAdNGAdCAbHAdJAbHAdNYAdTTAbHAeDDAbHAeNNAdTAbHAdDAbHAdNAcPA@2602bHA
dBAbHAdMAcYAcRAcLA@2610bLAdVA@2613cSHAcA@2616cHAjSIGN NUKTA@2620kVOWEL SIGN AA@2622cIaIcUaU
cEE@2631cAIcOO@2635cAUnSIGN VIRAMAgUDAAT@2641kLETTER KHHA@2649eGHHAeZAcRRAdFA@2654jDIGIT ZERO@2662
eONEdTWOcHREEfFOURdIVEeSIXcEVENfEIGHTfNINEkTIPPIfADDAKfIRIdURAdEK ONKARiSIGN YAKASH
lABBREVIATION SIGNyJARATI SIGN CANDRABINDU@2689lANUSVARAiVISARGAmLETTER A@2693aAcIaIcUaUcVOCALIC R
bLqVOWEL CANDRA EoLETTER E@2703bAIjVOWEL CANDRA OoLETTER O@2707bAUcKAbHAdGAbHAdNGAdCAbHAdJAbHAdNYA
dTTAbHAeDDAbHAeNNAdTAbHAdDAbHAdNAcPA@2730bHAdBAbHAdMAcYAcRAcLA@2738bLAdVA@2741cSHAcSAcAcHA
jSIGN NUKTA@2748fAVAGRAHAnVOWEL SIGN AAcIaIcUaUcVOCALIC RaRkCANDRA EiE@2759bAIcCANDRA OiO@2763bAU
nSIGN VIRAMAlOM@2768cLETTER VOCALIC RR@2784cLLrVOWEL SIGN VOCALIC LaLvDIGIT ZERO@2790eONEdTWOcHREE
fFOURdIVEeSIXcEVENfEIGHTfNINEkABBREVIATION SIGNrRUPEE SIGNkLETTER ZHA@2809kSIGN SUKUNeHADDAgMADDAH
gTHREE-DOT NUKTA ABOVEvCIRCLE NUKTA ABOVEsTWO-CIRCLE NUKTA ABOVEzlORIYA SIGN CANDRABINDU@2817
lANUSVARAiVISARGAmLETTER A@2821aAcIaIcUaUcVOCALIC RbLjE@2831bAIcO@2835bAUcKAbHAdGAbHAdNGAdCAbHAdJA
bHAdNYAdTTAbHAeDDAbHAeNNAdTAbHAdDAbHAdNAcPA@2858bHAdBAbHAdMAcYAcRAcLA@2866bLAdVA@2869cSHAcSAcAcHA
jSIGN NUKTA@2876fAVAGRAHAnVOWEL SIGN AAcIaIcUaUcVOCALIC RaRkE@2887bAIcO@2891bAUnSIGN VIRAMA
gOVERLINE@2901nAI LENGTH MARKnU LENGTH MARKoLETTER RRA@2908cHAdYYA@2911dVOCALIC RRcLL
rVOWEL SIGN VOCALIC LaLvDIGIT ZERO@2918eONEdTWOcHREEfFOURdIVEeSIXcEVENfEIGHTfNINEkISSHARgLETTER WA
jFRACTION ONE QUARTERhHALFiTHREE QUARTERSoONE SIXTEENTHjEIGHTHkTHREE SIXTEENTHS
zgTAMIL SIGN ANUSVARA@2946iVISARGAmLETTER A@2949aAcIaIcUaUcE@2958aEcAIcO@2962aOcAUcKAcNGA@2969dCA
cJA@2972cNYA@2974dTTAdNNA@2979dTAcNA@2984bNNAePAcMA@2990cYAcRAbRAdLAbLAbLAeVAcSHAcSAcAcHA
jVOWEL SIGN AA@3006cIaIcUaUcE@3014aEcAIcO@3018aOcAUnSIGN VIRAMAlOM@3024cAU LENGTH MARK@3031
oDIGIT ZERO@3046eONEdTWOcHREEfFOURdIVEeSIXcEVENfEIGHTfNINEkNUMBER TENdONE HUNDREDhTHOUSAND
tDAY SIGNiMONTH SIGNkYEAR SIGNjDEBIT SIGNkCREDIT SIGNlAS ABOVE SIGNnRUPEE SIGNkNUMBER SIGN
qELUGU SIGN COMBINING CANDRABINDU ABOVE@3072zbANDRABINDUlANUSVARAiVISARGAhCOMBINING ANUSVARA ABOVE
zeLETTER AaAcIaIcUaUcVOCALIC RbLjE@3086aEcAIcO@3090aOcAUcKAbHAdGAbHAdNGAdCAbHAdJAbHAdNYAdTTAbHA
eDDAbHAeNNAdTAbHAdDAbHAdNAcPA@3114bHAdBAbHAdMAcYAcRAbRAdLAbLAbLAeVAcSHAcSAcAcHAjSIGN NUKTA@3132
fAVAGRAHAnVOWEL SIGN AAcIaIcUaUcVOCALIC RaRkE@3142aEcAIcO@3146aOcAUnSIGN VIRAMAlLENGTH MARK@3157
lAI LENGTH MARKoLETTER TSA@3160dDZAdRRRAeNAKAARA POLLU@3165nVOCALIC RR@3168cLL
rVOWEL SIGN VOCALIC LaLvDIGIT ZERO@3174eONEdTWOcHREEfFOURdIVEeSIXcEVENfEIGHTfNINE
kSIGN SIDDHAM@3191mFRACTION DIGIT ZERO FOR ODD POWERS OF FOURzcONE FOR ODD POWERS OF FOUR
zbTWO FOR ODD POWERS OF FOURzaHREE FOR ODD POWERS OF FOURzdONE FOR EVEN POWERS OF FOUR
zcTWO FOR EVEN POWERS OF FOURzbHREE FOR EVEN POWERS OF FOURztSIGN TUUMU
rKANNADA SIGN SPACING CANDRABINDUtCANDRABINDUlANUSVARAiVISARGAhSIDDHAMmLETTER AaAcIaIcUaU
cVOCALIC RbLjE@3214aEcAIcO@3218aOcAUcKAbHAdGAbHAdNGAdCAbHAdJAbHAdNYAdTTAbHAeDDAbHAeNNAdTAbHAdDAbHA
dNAcPA@3242bHAdBAbHAdMAcYAcRAbRAdLAbLAdVA@3253cSHAcSAcAcHAjSIGN NUKTA@3260fAVAGRAHAnVOWEL SIGN AA
cIaIcUaUcVOCALIC RaRkE@3270aEcAIcO@3274aOcAUnSIGN VIRAMAlLENGTH MARK@3285lAI LENGTH MARK
oLETTER NAKAARA POLLU@3293nFAcVOCALIC RR@3296cLLrVOWEL SIGN VOCALIC LaLvDIGIT ZERO@3302eONEdTWO
cHREEfFOURdIVEeSIXcEVENfEIGHTfNINEkSIGN JIHVAMULIYA@3313lUPADHMANIYA
yMALAYALAM SIGN COMBINING ANUSVARA ABOVE@3328xANDRABINDUlANUSVARAiVISARGAmLETTER VEDIC ANUSVARAoA
aAcIaIcUaUcVOCALIC RbLjE@3342aEcAIcO@3346aOcAUcKAbHAdGAbHAdNGAdCAbHAdJAbHAdNYAdTTAbHAeDDAbHAeNNA
dTAbHAdDAbHAdNAbNNAePAbHAdBAbHAdMAcYAcRAbRAdLAbLAbLAeVAcSHAcSAcAcHAcTTTAlSIGN VERTICAL BAR VIRAMA
tCIRCULAR VIRAMApAVAGRAHAnVOWEL SIGN AAcIaIcUaUcVOCALIC RaRkE@3398aEcAIcO@3402aOcAUnSIGN VIRAMA
lLETTER DOT REPHpSIGN PARAjLETTER CHILLU M@3412bYbLLLrAU LENGTH MARK
oFRACTION ONE ONE-HUNDRED-AND-SIXTIETHyFORTIETHmTHREE EIGHTIETHSqONE TWENTIETHiENTH
jTHREE TWENTIETHSqONE FIFTHsLETTER ARCHAIC IIkVOCALIC RRcLLrVOWEL SIGN VOCALIC LaLvDIGIT ZERO@3430
eONEdTWOcHREEfFOURdIVEeSIXcEVENfEIGHTfNINEkNUMBER TENdONE HUNDREDhTHOUSANDtFRACTION ONE QUARTER
hHALFiTHREE QUARTERSoONE SIXTEENTHjEIGHTHkTHREE SIXTEENTHSzaDATE MARKjLETTER CHILLU NNb@3451bRRcL
aLcKzaSINHALA SIGN CANDRABINDU@3457lANUSVARAYAkVISARGAYAoLETTER AYANNA@3461fAYANNAgEYANNAfEYANNA
iIYANNAfIYANNAhUYANNAfUYANNAhIRUYANNAfUYANNAiLUYANNAfUYANNAjEYANNAfEYANNAhAIYANNAhOYANNAfOYANNA
hAUYANNAgLPAPRAANA KAYANNA@3482sMAHAAPRAANA KAYANNAtALPAPRAANA GAYANNAsMAHAAPRAANA GAYANNA
tKANTAJA NAASIKYAYAsSANYAKA GAYANNApALPAPRAANA CAYANNAsMAHAAPRAANA CAYANNAtALPAPRAANA JAYANNA
sMAHAAPRAANA JAYANNAtTAALUJA NAASIKYAYAkSANYOOGA NAAKSIKYAYAzdSANYAKA JAYANNApALPAPRAANA TTAYANNA
tMAHAAPRAANA TTAYANNAuALPAPRAANA DDAYANNAtMAHAAPRAANA DDAYANNAtUURDHAJA NAYANNArSANYAKA DDAYANNA
qALPAPRAANA TAYANNAsMAHAAPRAANA TAYANNAtALPAPRAANA DAYANNAsMAHAAPRAANA DAYANNAtDANTAJA NAYANNA
pSANYAKA DAYANNA@3507pALPAPRAANA PAYANNAsMAHAAPRAANA PAYANNAtALPAPRAANA BAYANNA
sMAHAAPRAANA BAYANNArYANNAhAMBA BAYANNAmYAYANNAhRAYANNAhDANTAJA LAYANNA@3517pVAYANNA@3520
hTAALUJA SAYANNApMUURDHAJA SAYANNArDANTAJA SAYANNApHAYANNAhMUURDHAJA LAYANNArFAYANNA
oSIGN AL-LAKUNA@3530oVOWEL SIGN AELA-PILLA@3535kKETTI AEDA-PILLAqDIGA AEDA-PILLApKETTI IS-PILLA
oDIGA IS-PILLAnKETTI PAA-PILLApDIGA PAA-PILLA@3542oGAETTA-PILLA@3544mKOMBUVAhDIGA KOMBUVA
mKOMBU DEKAfVA HAA AELA-PILLAkDIGA AELA-PILLApGAYANUKITTAxGAYANUKITTAwLITH DIGIT ZERO@3558eONEdTWO
cHREEfFOURdIVEeSIXcEVENfEIGHTfNINEpVOWEL SIGN DIGA GAETTA-PILLA@3570kYANUKITTA
zcPUNCTUATION KUNDDALIYAzfTHAI CHARACTER KO KAI@3585fHO KHAIcUATdWAIdONeRAKHANGlNGO NGUhCHO CHAN
cINGdANGjSO SOfCHO CHOEiYO YINGhDO CHADAiTO PATAKhHO THANeNANGMONTHOkPHUTHAOlNO NENgDO DEKgTO TAO
fHO THUNGdAHANeONGjNO NUfBO BAIMAIjPO PLAfHO PHUNGjFO FAfPHO PHANiFO FANgPHO SAMPHAOlMO MAfYO YAK
gRO RUAfUcLO LINGgUcWO WAENhSO SALAeRUSIeSUAgHO HIPgLO CHULAiO ANGfHO NOKHUKjPAIYANNOIjSARA A
gMAI HAN-AKATmSARA AAbMcIaIcUEaEc@3640aUhPHINTHUqURRENCY SYMBOL BAHT@3647tHARACTER SARA EbAEcO
bAI MAIMUANdALAIqLAKKHANGYAOlMAIYAMOKfTAIKHUg EKcTHOcRIdCHATTAWAmTHANTHAKHATlNIKHAHITiYAMAKKAN
iFONGMANrDIGIT ZEROeONEdTWOcHREEfFOURdIVEeSIXcEVENfEIGHTfNINEkCHARACTER ANGKHANKHUkKHOMUT
vLAO LETTER KO@3713bHO SUNGeTAM@3716hPALI GHA@3718iNGOdCOcPALI CHAiSO TAMgPALI JHA@3724iNYO
dPALI NYAdTTAbHAeDDAbHAeNNAiDOcTObHO SUNGeTAMhPALI DHAiNOcBOcPObHO SUNGiFO TAMgPHO TAMhFO SUNG
hPALI BHAiMOcYOcLO LINGdOOT@3749hWO@3751cSANSKRIT SHAcSAlO SUNGhHO SUNGhPALI LLAiObHO TAMnELLIPSIS
iVOWEL SIGN AbMAI KANhAAbMcIaIcYaYcUaUnSIGN PALI VIRAMAqVOWEL SIGN MAI KONsSEMIVOWEL SIGN LOcNYO
sVOWEL SIGN E@3776aIcObAYbInKO LA@3782fTONE MAI EK@3784cTHOcIcCATAWApCANCELLATION MARKrNIGGAHITA
jDIGIT ZERO@3792eONEdTWOcHREEfFOURdIVEeSIXcEVENfEIGHTfNINEkHO NO@3804cMOfLETTER KHMU GOcNYO
tTIBETAN SYLLABLE OM@3840lMARK GTER YIG MGO TRUNCATED Al-UM RNAM BCAD MAmGTER TSHEG MA
zfINITIAL YIG MGO MDUN MAxCLOSING YIG MGO SGAB MAwARET YIG MGO PHUR SHAD MAzbYIG MGO TSHEG SHAD MA
vSBRUL SHADkBSKUR YIG MGOmKA- SHOG YIG MGOrINTERSYLLABIC TSHEGtDELIMITER TSHEG BSTARvSHAD
eNYIS SHADjTSHEG SHADkNYIS TSHEG SHADpRIN CHEN SPUNGS SHADtGYA GRAM SHAD
oCARET -DZUD RTAGS ME LONG CANzeGTER TSHEGpLOGOTYPE SIGN CHAD RTAGSkLHAG RTAGS
yASTROLOGICAL SIGN SGRA GCAN -CHAR RTAGSv-KHYUD PAjSDONG TSHUGSzfSIGN RDEL DKAR GCIGdNYISeSUM
jNAG GCIGdNYISjDKAR RDEL NAGxDIGIT ZEROeONEdTWOcHREEfFOURdIVEeSIXcEVENfEIGHTfNINEeHALF ONEdTWO
cHREEfFOURdIVEeSIXcEVENfEIGHTfNINEeZEROpMARK BSDUS RTAGSlNGAS BZUNG NYI ZLA
sCARET -DZUD RTAGS BZHI MIG CANzfNGAS BZUNG SGOR RTAGSvCHE MGOhTSA -PHRUjGUG RTAGS GYONcAS
oANG KHANG GYONcAStSIGN YAR TSHESjMAR TSHESoLETTER KAbHAdGAbHAdNGAdCAbHAdJAcNYA@3913dTTAbHAeDDAbHA
eNNAdTAbHAdDAbHAdNAcPAbHAdBAbHAdMAcTSAbHAeDZAbHAeWAcZHAcAc-AcYAcRAcLAcSHAcSAcAcHAcAbKSSA
eFIXED-FORM RAnKKAdRRAkVOWEL SIGN AA@3953cIaIcUaUcVOCALIC RaRcLaLkEaEcOaOnSIGN RJES SU NGA RO
nNAM BCADoVOWEL SIGN REVERSED IaIwSIGN NYI ZLA NAA DAoSNA LDANnMARK HALANTAhPALUTAlSIGN LCI RTAGS
jYANG RTAGSkLCE TSA CANlMCHU CANiGRU CAN RGYINGSlMED RGYINGSpINVERTED MCHU CAN
vUBJOINED SIGN LCE TSA CANlMCHU CANiINVERTED MCHU CANwLETTER KAbHAdGAbHAdNGAdCAbHAdJAcNYA@3993dTTA
bHAeDDAbHAeNNAdTAbHAdDAbHAdNAcPAbHAdBAbHAdMAcTSAbHAeDZAbHAeWAcZHAcAc-AcYAcRAcLAcSHAcSAcAcHAcAbKSSA
eFIXED-FORM WAcYAcRAzfKU RU KHA@4030a BZHI MIG CANwCANTILLATION SIGN HEAVY BEATkLIGHT BEAT
kCANG TE-UjSBUB -CHALzdSYMBOL DRIL BUhRDO RJEhPADMA GDANkRDO RJE RGYA GRAMrPHUR PAhNOR BU
a NYIS -KHYILlGSUM -KHYILlBZHI -KHYILyIGN RDEL NAG RDEL DKAR@4046jGSUM
sMARK BSKA- SHOG GI MGO RGYANxMNYAM YIG GI MGO RGYANwNYIS TSHEG
kINITIAL BRDA RNYING YIG MGO MDUN MAzkCLOSING BRDA RNYING YIG MGO SGAB MA
zxRIGHT-FACING SVASTI SIGNyLEFT-FACING SVASTI SIGNxRIGHT-FACING SVASTI SIGN WITH DOTS
zjLEFT-FACING SVASTI SIGN WITH DOTSziTIBETAN MARK LEADING MCHAN RTAGStTRAILING MCHAN RTAGS
ziMYANMAR LETTER KA@4096bHAdGAbHAdNGAdCAbHAdJAbHAdNYAcNYAeTTAbHAeDDAbHAeNNAdTAbHAdDAbHAdNAcPAbHA
dBAbHAdMAcYAcRAcLAcWAcSAcHAcLLAdAbSHAN AgIaIcUaUcEbMON EfObAUjVOWEL SIGN TALL AAhAAcIaIcUaUcEbAI
cMON IIcOfE ABOVEsSIGN ANUSVARAiDOT BELOWjVISARGAfRAMAgASATjCONSONANT SIGN MEDIAL YAcRAcWAcHA
yLETTER GREAT SApDIGIT ZEROeONEdTWOcHREEfFOURdIVEeSIXcEVENfEIGHTfNINEkSIGN LITTLE SECTIONoSECTION
lYMBOL LOCATIVEiCOMPLETEDjAFOREMENTIONEDoGENITIVEpLETTER SHAcSAdVOCALIC RaRcLaL
rVOWEL SIGN VOCALIC RaRcLaLvLETTER MON NGAdJHAdBBAbEoCONSONANT SIGN MON MEDIAL NAcMAcLA
zdLETTER SGAW KAREN SHAvVOWEL SIGN SGAW KAREN EUyTONE MARK SGAW KAREN HATHIfKE PHO
zcLETTER WESTERN PWO KAREN THAdPWAzdVOWEL SIGN WESTERN PWO KAREN EUcUE
zgSIGN WESTERN PWO KAREN TONE-1b2b3b4b5zeLETTER EASTERN PWO KAREN NNAdYWAdGHWA
zeVOWEL SIGN GEBA KAREN ImKAYAH OEcUbEEtLETTER SHAN KAbHAdGAcCAcZAcNYAdDAcNAcPHAdFAcBAcTHAdHA
oCONSONANT SIGN SHAN MEDIAL WAzeVOWEL SIGN SHAN AAcEa ABOVEhFINAL YxSIGN SHAN TONE-2b3b5b6
gCOUNCIL TONE-2b3gEMPHATIC TONEzgLETTER RUMAI PALAUNG FAxSIGN RUMAI PALAUNG TONE-5yHAN DIGIT ZERO
eONEdTWOcHREEfFOURdIVEeSIXcEVENfEIGHTfNINEoIGN KHAMTI TONE-1b3sVOWEL SIGN AITON AaI
tSYMBOL SHAN ONEdEXCLAMATIONzgGEORGIAN CAPITAL LETTER ANcBANdGANdDONdENcVINdZENdTANdINcKANdLASdMAN
dNARdONcPARdZHAReRAEdSANdTARdUNcPHAReKHAReGHANeQARdSHINeCHINdANdJILdCILcHAReXANdJHANeHAEcEbIEdWE
cHARcOEdYN@4295cAEN@4301sLETTER AN@4304cBANdGANdDONdENcVINdZENdTANdINcKANdLASdMANdNARdONcPARdZHAR
eRAEdSANdTARdUNcPHAReKHAReGHANeQARdSHINeCHINdANdJILdCILcHAReXANdJHANeHAEcEbIEdWEcHARcOEdFIcYN
cELIFIfTURNED GANkAINkPARAGRAPH SEPARATORzdMODIFIER LETTER GEORGIAN NARzdGEORGIAN LETTER AEN
dHARD SIGNjLABIAL SIGNzcHANGUL CHOSEONG KIYEOKgSSANGKIYEOKlNIEUNfTIKEUTgSSANGTIKEUTlRIEULfMIEUM
fPIEUPfSSANGPIEUPjIOSdSANGSIOSjIEUNGfCIEUCfSSANGCIEUCkCHIEUCHhKHIEUKHhTHIEUTHhPHIEUPHhHIEUH
fNIEUN-KIYEOKmSSANGNIEUNkNIEUN-TIKEUTgPIEUPlTIKEUT-KIYEOKnRIEUL-NIEUNlSSANGRIEULkRIEUL-HIEUH
lKAPYEOUNRIEULnMIEUM-PIEUPlKAPYEOUNMIEUMnPIEUP-KIYEOKgNIEUNfTIKEUTgSIOSa-KIYEOKgTIKEUTgPIEUP
jSANGSIOSiIOS-CIEUCkCIEUCeHIEUCHhTHIEUTHhPHIEUPHnKAPYEOUNPIEUPfSSANGPIEUPsSIOS-KIYEOKgNIEUNfTIKEUT
gRIEULfMIEUMfPIEUPa-KIYEOKmSSANGSIOSjIEUNGfCIEUCeHIEUCHhKHIEUKHhTHIEUTHhPHIEUPHhHIEUHkCHITUEUMSIOS
dSANGSIOSqEONGCHIEUMSIOSdSANGSIOSuPANSIOShIEUNG-KIYEOKgTIKEUTgMIEUMfPIEUPfSIOSePANSIOSnSSANGIEUNG
kIEUNG-CIEUCeHIEUCHhTHIEUTHhPHIEUPHnYESIEUNGiCIEUC-IEUNGkHITUEUMCIEUCfSSANGCIEUCrEONGCHIEUMCIEUC
fSSANGCIEUCuHIEUCH-KHIEUKHhHIEUHkTUEUMCHIEUCHoEONGCHIEUMCHIEUCHsPHIEUPH-PIEUPnKAPYEOUNPHIEUPH
pSSANGHIEUHkYEORINHIEUHlKIYEOK-TIKEUTnNIEUN-SIOSeCIEUCfHIEUHlTIKEUT-RIEULmFILLERpJUNGSEONG FILLER
gAaEcYAaEdEOb@4454bYEOb@4456cObWAaEdOEcYOcUbWEOb@4464bIcYUcEUcYIcIbA-ObUdYA-ObYOfEO-ObUbEUfYEO-ObU
fO-EOb@4480bYEcObUdYO-YAaEcEOdObIeU-AaEcEO-EUfYEcUdYU-AbEOb@4496bYEOb@4498cUbIeEU-UbEUfYI-UeI-AbYA
cObUbEUcARAEAhARAEAa-EOcUbIhSSANGARAEAkA-EUeYA-UdEO-YAgO-YAaEoONGSEONG KIYEOKgSSANGKIYEOK
lKIYEOK-SIOSlNIEUNa-CIEUCfHIEUHlTIKEUTgRIEULa-KIYEOKgMIEUMfPIEUPfSIOSeTHIEUTHhPHIEUPHhHIEUHlMIEUM
fPIEUPa-SIOSkSIOSdSANGSIOSjIEUNGfCIEUCeHIEUCHhKHIEUKHhTHIEUTHhPHIEUPHhHIEUHfKIYEOK-RIEUL
fSIOS-KIYEOKsNIEUN-KIYEOKgTIKEUTgSIOSePANSIOShTHIEUTHnTIKEUT-KIYEOKgRIEULmRIEUL-KIYEOK-SIOSlNIEUN
fTIKEUTa-HIEUHsSSANGRIEULkRIEUL-MIEUM-KIYEOKgSIOSkPIEUP-SIOSeHIEUHlKAPYEOUNPIEUPnSSANGSIOSjPANSIOS
hKHIEUKHhYEORINHIEUHrMIEUM-KIYEOKgRIEULfPIEUPfSIOSdSANGSIOSjPANSIOShCHIEUCHhHIEUHlKAPYEOUNMIEUM
nPIEUP-RIEULfPHIEUPHhHIEUHlKAPYEOUNPIEUPnSIOS-KIYEOKgTIKEUTgRIEULfPIEUPkPANSIOShIEUNG-KIYEOK
gSSANGKIYEOKrSSANGIEUNGkIEUNG-KHIEUKHnYESIEUNGa-SIOSePANSIOSqPHIEUPH-PIEUPnKAPYEOUNPHIEUPH
pHIEUH-NIEUNfRIEULfMIEUMfPIEUPlYEORINHIEUHlKIYEOK-NIEUNfPIEUPfCHIEUCHhKHIEUKHhHIEUHmSSANGNIEUN
zcETHIOPIC SYLLABLE HAbUbIbAAcEEb@4613bOaAdLAbUbIbAAcEEb@4621bObWAdHHAbUbIbAAcEEb@4629bObWAeMAbUbI
bAAcEEb@4637bObWAdSZAbUbIbAAcEEb@4645bObWAeRAbUbIbAAcEEb@4653bObWAdSAbUbIbAAcEEb@4661bObWAcHAbUbI
bAAcEEb@4669bObWAeQAbUbIbAAcEEb@4677bOaAcWAbI@4682bAAcEEb@4685cHA@4688bUbIbAAcEEb@4693bObWA@4696
bI@4698bAAcEEb@4701eBA@4704bUbIbAAcEEb@4709bObWAdVAbUbIbAAcEEb@4717bObWAdTAbUbIbAAcEEb@4725bObWA
dCAbUbIbAAcEEb@4733bObWAdXAbUbIbAAcEEb@4741bOaAcWAbI@4746bAAcEEb@4749dNA@4752bUbIbAAcEEb@4757bObWA
cYAbUbIbAAcEEb@4765bObWAeGLOTTAL AbUbIbAAcEEb@4773bObWAkKAbUbIbAAcEEb@4781bOaAcWAbI@4786bAAcEE
b@4789cXA@4792bUbIbAAcEEb@4797bObWA@4800bI@4802bAAcEEb@4805eWA@4808bUbIbAAcEEb@4813bOaA
dPHARYNGEAL AbUbIbAAcEEb@4821bOmZA@4824bUbIbAAcEEb@4829bObWAcHAbUbIbAAcEEb@4837bObWAeYAbUbIbAAcEE
b@4845bOaAdDAbUbIbAAcEEb@4853bObWAcDAbUbIbAAcEEb@4861bObWAeJAbUbIbAAcEEb@4869bObWAdGAbUbIbAAcEE
b@4877bOaAcWAbI@4882bAAcEEb@4885cGA@4888bUbIbAAcEEb@4893bObWAAfTHAbUbIbAAcEEb@4901bObWAeCHAbUbIbAA
cEEb@4909bObWAePHAbUbIbAAcEEb@4917bObWAeTSAbUbIbAAcEEb@4925bObWAdZAbUbIbAAcEEb@4933bOaAeFAbUbIbAA
cEEb@4941bObWAdPAbUbIbAAcEEb@4949bObWAdRYAdMYAdFYAmCOMBINING GEMINATION AND VOWEL LENGTH MARK@4957
zhVOWEL LENGTH MARKrGEMINATION MARKzaSECTION MARKmWORDSPACEjFULL STOPjCOMMAfSEMICOLONjCOLON
fPREFACE COLONnQUESTION MARKnPARAGRAPH SEPARATORtDIGIT ONEdTWOcHREEfFOURdIVEeSIXcEVENfEIGHTfNINE
kNUMBER TENcWENTYfHIRTYgFORTYeIFTYfSIXTYeEVENTYhEIGHTYgNINETYgHUNDREDhTEN THOUSAND
tSYLLABLE SEBATBEIT MWA@4992nMWIbEEb@4995dSEBATBEIT BWAnBWIbEEb@4999dSEBATBEIT FWAnFWIbEEb@5003
dSEBATBEIT PWAnPWIbEEb@5007mTONAL MARK YIZETfDERETfRIKRIKgSHORT RIKRIKmDIFATfKENATfCHIRETgHIDET
fDERET-HIDETlKURTyCHEROKEE LETTER A@5024bEbIbObUbVbGAcKAcGEbIbObUbVcHAbEbIbObUbVcLAbEbIbObUbVcMAbE
bIbObUcNAcHNAdNAHcEbIbObUbVcQUAbEbIbObUbVdSAb@5069aEbIbObUbVcDAcTAcDEcTEcDIcTIcDObUbVbLAdTLAbEbIbO
bUbVcSAbEbIbObUbVdWAbEbIbObUbVcYAbEbIbObUbVcMVjSMALL LETTER YE@5112bIbObUbVcMV
xANADIAN SYLLABICS HYPHEN@5120gEbAAIdIaIcOaOcY-CREE OOjCARRIER EEcIjAaAcWEaST-CREE WElI
bEST-CREE WIlIIcEST-CREE WIImObEST-CREE WOlOOcEST-CREE WOOnNASKAPI WOOlWAbEST-CREE WAlAA
cEST-CREE WAAnNASKAPI WAAlAIcY-CREE WiGLOTTAL STOPmFINAL ACUTEfGRAVEfBOTTOM HALF RING
qTOP HALF RINGnRIGHT HALF RINGnNGeDOUBLE ACUTEfSHORT VERTICAL STROKESzeMIDDLE DOT
kSHORT HORIZONTAL STROKExPLUSeDOWN TACKpENcINcONcANcPEbAAIdIaIcOaOdY-CREE POOkCARRIER HEEcIkPAaA
cWEdWEST-CREE PWEnPWIdWEST-CREE PWInPWIIeWEST-CREE PWIIoPWOdWEST-CREE PWOnPWOOeWEST-CREE PWOOoPWA
dWEST-CREE PWAnPWAAeWEST-CREE PWAAoY-CREE PWAAlPbWEST-CREE PlCARRIER HjTEbAAIdIaIcOaOdY-CREE TOO
kCARRIER DEEcIkTAaAcWEdWEST-CREE TWEnTWIdWEST-CREE TWInTWIIeWEST-CREE TWIIoTWOdWEST-CREE TWOnTWOO
eWEST-CREE TWOOoTWAdWEST-CREE TWAnTWAAeWEST-CREE TWAAoNASKAPI TWAAmTaTEbIbObAdKEbAAIdIaIcOaO
dY-CREE KOOkKAaAcWEdWEST-CREE KWEnKWIdWEST-CREE KWInKWIIeWEST-CREE KWIIoKWOdWEST-CREE KWOnKWOO
eWEST-CREE KWOOoKWAdWEST-CREE KWAnKWAAeWEST-CREE KWAAoNASKAPI KWAAmKaWcSOUTH-SLAVEY KEHcIHcOHcAH
qCEbAAIdIaIcOaOdY-CREE COOkCAaAcWEdWEST-CREE CWEnCWIdWEST-CREE CWInCWIIeWEST-CREE CWIIoCWO
dWEST-CREE CWOnCWOOeWEST-CREE CWOOoCWAdWEST-CREE CWAnCWAAeWEST-CREE CWAAoNASKAPI CWAAmCbSAYISI TH
jMEbAAIdIaIcOaOdY-CREE MOOkMAaAcWEdWEST-CREE MWEnMWIdWEST-CREE MWInMWIIeWEST-CREE MWIIoMWO
dWEST-CREE MWOnMWOOeWEST-CREE MWOOoMWAdWEST-CREE MWAnMWAAeWEST-CREE MWAAoNASKAPI MWAAmM
bWEST-CREE MlMHcATHAPASCAN MmSAYISI MiNEbAAIdIaIcOaOdY-CREE NOOkNAaAcWEdWEST-CREE NWEnNWA
dWEST-CREE NWAnNWAAeWEST-CREE NWAAoNASKAPI NWAAl@5328bCARRIER NGkNHcLEbAAIdIaIcOaOdY-CREE LOOkLAaA
cWEdWEST-CREE LWEnLWIdWEST-CREE LWInLWIIeWEST-CREE LWIIoLWOdWEST-CREE LWOnLWOOeWEST-CREE LWOOoLWA
dWEST-CREE LWAnLWAAeWEST-CREE LWAAoLbWEST-CREE LlMEDIAL LiSEbAAIdIaIcOaOdY-CREE SOOkSAaAcWE
dWEST-CREE SWEnSWIdWEST-CREE SWInSWIIeWEST-CREE SWIIoSWOdWEST-CREE SWOnSWOOeWEST-CREE SWOOoSWA
dWEST-CREE SWAnSWAAeWEST-CREE SWAAoNASKAPI SWAAmSbATHAPASCAN SmSWcBLACKFOOT SlMOOSE-CREE SK
nNASKAPI SKWc-WcPWAdTWAdKWAdCWAmSHEbIaIcOaOcAaAcWEeWEST-CREE SHWEoSHWIeWEST-CREE SHWIoSHWII
fWEST-CREE SHWIIpSHWOeWEST-CREE SHWOoSHWOOfWEST-CREE SHWOOpSHWAeWEST-CREE SHWAoSHWAA
fWEST-CREE SHWAApSHcYEbAAIdIaIcOaOc-CREE YOOjAaAcWEdWEST-CREE YWEnYWIdWEST-CREE YWInYWII
eWEST-CREE YWIIoYWOdWEST-CREE YWOnYWOOeWEST-CREE YWOOoYWAdWEST-CREE YWAnYWAAeWEST-CREE YWAA
oNASKAPI YWAAmYbBIBLE-CREE YmWEST-CREE YlSAYISI YIjREb-CREE REjWEST-CREE LEmRAAIdIaIcOaO
dWEST-CREE LOmRAaAdWEST-CREE LAmRWAAeWEST-CREE RWAAoRbWEST-CREE RlMEDIAL RiFEbAAIdIaIcOaOcAaAcWAA
eWEST-CREE FWAAoFbTHEdN-CREE THEkTHIdN-CREE THIkTHIIeN-CREE THIIlTHOaOcAaAcWAAfWEST-CREE THWAApTH
bTHEbIbObAb@5487cYEbIbObAdNUNAVIK HEbIaIcOaOcAaAc@5499eUT HjHKcQAAIdIaIcOaOcAaAc@5509bTLHEbIbObA
eWEST-CREE REbIbObAmNGAAIdIaIcOaOcAaAc@5525bNGdSAYISI SHEbIbObAkWOODS-CREE THEbIbObAb@5535nLHIaIcO
aOcAaAc@5542cTH-CREE THEbIaIcOaOcAaAc@5550kAIVILIK BjBLACKFOOT EbIbObAbWEbIbObAcNEbIbObAcKEbIbObA
mSAYISI HEbIbObAjCARRIER GHUbObEaEcIbAdRUbObEaEcIbAcWUbObEaEcIbAcHWUbObEaEcIbAdTHUbObEaEcIbAcTUbO
bEaEcIbAdPUbObEaEcIbAb@5614bGUbObEaEcIbAcKHUbObEaEcIbAcKUbObEaEcIbAb@5633cNUbObEaEcIbAcMUbObEaEcI
bAcYUbObEaEcIbAcJUkSAYISI JUjCARRIER JObEaEcIkSAYISI JIjCARRIER JAbJUbObEaEcIbAdLUbObEaEcIbAcDLUbO
bEaEcIbAdLHUbObEaEcIbAdTLHUbObEaEcIbAcUbObEaEcIbAdZUbObEaEcIbAb@5702bINITIAL ZjDZUbObEaEcIbAdSUbO
bEaEcIbAbHUbObEaEcIbAb@5722cTSUbObEaEcIbAdCHUbObEaEcIbAdTTSUbObEaEcIbAlHI SIGNiFULL STOPjQAIdNGAI
dNGIaIcOaOcAaAfWOODS-CREE THWEEcIaIcOaOcAaAfFINAL THtBLACKFOOT WzfOGHAM SPACE MARKkLETTER BEITH
fLUISeFEARNfSAILeNIONeUATHeDAIReTINNEfCOLLdEIRTfMUINeGORTeNGEADALhSTRAIFgRUISeAILMeONNdURcEADHADH
hIODHADHhEABHADHhORcUILLEANNiIFINeEAMHANCHOLLlPEITHmFEATHER MARKmREVERSED FEATHER MARK
zcRUNIC LETTER FEHU FEOH FE F@5792oVbURUZ UR UjYRb@5796bWbTHURISAZ THURS THORNuETHdANSUZ AhOS O
eAC AdESCeLONG-BRANCH-OSS OrSHORT-TWIG-OSS OqOaEbNcRAIDO RAD REID RqKAUNAfCENdKAUN KgGbENG
dGEBO GYFU GkARdWUNJO WYNN WmHAGLAZ HgEGL HhLONG-BRANCH-HAGALL HuSHORT-TWIG-HAGALL H
tNAUDIZ NYD NAUD NrSHORT-TWIG-NAUD NrDOTTED-NiISAZ IS ISS InEbJERAN JhGERdLONG-BRANCH-AR AE
rSHORT-TWIG-AR ApIWAZ EOHiPERTHO PEORTH PpALGIZ EOLHXlSOWILO ShIGEL LONG-BRANCH-SOL S
wHORT-TWIG-SOL SqCbZbTIWAZ TIR TYR TpSHORT-TWIG-TYR TqDbBERKANAN BEORC BJARKAN B
ySHORT-TWIG-BJARKAN BuDOTTED-PiOPEN-PgEHWAZ EH EkMANNAZ MAN MmLONG-BRANCH-MADR MsSHORT-TWIG-MADR M
rLAUKAZ LAGU LOGR LsDOTTED-LiINGWAZd@5853dDAGAZ DAEG DmOTHALAN ETHEL OpEARdIORdCWEORTHgALCdEALC
fSTANeLONG-BRANCH-YRoSHORT-TWIG-YRnICELANDIC-YRmQbXiSINGLE PUNCTUATIONsMULTIPLE PUNCTUATION
uCROSS PUNCTUATIONrARLAUG SYMBOLnTVIMADUR SYMBOLpBELGTHOR SYMBOLpLETTER KbSHcOOcFRANKS CASKET OS
cIScEHcACbESCzgTAGALOG LETTER A@5888bIbUbKAcGAcNGAdTAcDAcNAcPAcBAcMAcYAcRAcLAcWAcSAcHA
jVOWEL SIGN IbUmSIGN VIRAMAgPAMUDPODnLETTER ARCHAIC RA@5919zaHANUNOO LETTER AbIbUbKAcGAcNGAdTAcDA
cNAcPAcBAcMAcYAcRAcLAcWAcSAcHAjVOWEL SIGN IbUmSIGN PAMUDPODvPHILIPPINE SINGLE PUNCTUATION
sDOUBLE PUNCTUATIONzeBUHID LETTER A@5952bIbUbKAcGAcNGAdTAcDAcNAcPAcBAcMAcYAcRAcLAcWAcSAcHA
jVOWEL SIGN IbUsTAGBANWA LETTER A@5984bIbUbKAcGAcNGAdTAcDAcNAcPAcBAcMAcYAcLA@5998cWAcSA
jVOWEL SIGN I@6002bUvKHMER LETTER KA@6016bHAcObHOdNGOdCAbHAcObHOdNYOdDAcTTHAeDOcTTHOeNNOdTAbHAcO
bHOdNOcBAcPHAcObHOdMOcYOcROcLOcVOcSHAcSOcAcHAcLAcQAjINDEPENDENT VOWEL QAQbAcIaIcUaKbUaVeRYaYdLYaY
dQEbAIcOO TYPE ONEdTWOlAUvVOWEL INHERENT AQbAlSIGN AAcIaIcYaYcUaUbAcOEcYAcIEcEbAEbIcOOcAU
nSIGN NIKAHIThREAHMUKhYUUKALEAPINTUnMUUSIKATOANlTRIISAPhBANTOCgROBATfTOANDAKHIATlKAKABAThAHSDA
fSAMYOK SANNYAnVIRIAMgCOENGfBATHAMASATkKHANeBARIYOOSANkCAMNUC PII KUUHpLEK TOOhBEYYALgPHNAEK MUAN
lKOOMUUTmCURRENCY SYMBOL RIELuSIGN AVAKRAHASANYAmTTHACANnDIGIT ZERO@6112eONEdTWOcHREEfFOURdIVEeSIX
cEVENfEIGHTfNINEkSYMBOL LEK ATTAK SON@6128dMUOYePIIdBEIcUONePRAMa-MUOYePIIdBEIcUON
zhMONGOLIAN BIRGA@6144fELLIPSISiCOMMAfFULL STOPjCOLONfFOUR DOTSjTODO SOFT HYPHEN
qSIBE SYLLABLE BOUNDARY MARKERzeMANCHU COMMAfFULL STOPqNIRUGUgFREE VARIATION SELECTOR ONEdTWOcHREE
zeVOWEL SEPARATORpFREE VARIATION SELECTOR FOURzdDIGIT ZEROeONEdTWOcHREEfFOURdIVEeSIXcEVENfEIGHT
fNINEkLETTER A@6176bEbIbObUbOEcUEcEEcNAcANGdBAcPAcQAcGAcMAcLAcSAbHAdTAcDAcCHAdJAcYAcRAcWAcFAcKAbHA
dTSAdZAcHAAdZRAdLHAdZHIdCHIdTODO LONG VOWEL SIGNpEbIbObUbOEcUEcANGdBAcPAcQAcGAcMAcTAcDAcCHAdJAcTSA
dYAcWAcKAcGAAdHAAdJIAdNIAdDZAiSIBE EbIaYcUEb@6241bANGdKAcGAcHAcPAcSHAdTAcDAcJAcFAcGAAdHAAdTSAdZA
cRAAdCHAdZHAiMANCHU IbKAcRAcFAcZHAkCHA WITH TWO DOTSrALI GALI ANUSVARA ONE@6272mVISARGA ONElDAMARU
gUBADAMAhINVERTED UBADAMAqBALUDAgTHREE BALUDAmAbIbKAcNGAdCAcTTAbHAeDDAdNNAdTAcDAcPAbHAdSSAdZHAcA
cAHlTODO ALI GALI TAcZHArMANCHU ALI GALI GHAdNGAdCAcJHAdTTAdDDHAeTAcDHAdSSAdCYAdZHAcA
sALI GALI HALF UbYAqMANCHU ALI GALI BHAtALI GALI DAGALGAqMANCHU ALI GALI LHA
zlCANADIAN SYLLABICS OY@6320cAYbAYdWAYdPOYcAYcWOYeTAYdKAYcWAYeMAYdNOYcAYdLAYdSOYcAYcHOYcAYcWOYfYOY
cAYdRAYdNWIdOJIBWAY NWIlNWIIeOJIBWAY NWIImNWOdOJIBWAY NWOlNWOOeOJIBWAY NWOOmRWEEcIaIcOaOcA
dOJIBWAY PbTbKbCbMbNbSaHkEASTERN WjWESTERN WjFINAL SMALL RINGkRAISED DOTqR-CREE RWEkWEST-CREE LOO
cAAnTHWEbAdTHWEcOOcAAeLHWEcOOfSAYISI SHWEcOOeHOOkCARRIER GWUdDENE GEEiGAAcWAlSAYISI JUU
kCARRIER JWAlBEAVER DENE LbRnCARRIER DENTAL SzkLIMBU VOWEL-CARRIER LETTER@6400uLETTER KAbHAdGAbHA
dNGAdCAbHAdJAbHAdYANdTAbHAdDAbHAdNAcPAbHAdBAbHAdMAcYAcRAcLAcWAcSHAcSAcAcHAcGYANeTRA
kVOWEL SIGN A@6432bIbUbEEcAIcOOcAUcEbOmSUBJOINED LETTER YAcRAcWAsMALL LETTER KA@6448cNGAdANUSVARA
iTAcNAcPAcMAcRAcLAoIGN MUKPHRENGjKEMPHRENGjSA-IeLOO@6464iEXCLAMATION MARK@6468qQUESTION MARK
nDIGIT ZEROeONEdTWOcHREEfFOURdIVEeSIXcEVENfEIGHTfNINEqTAI LE LETTER KAcXAcNGAdTSAdSAcYAcTAbHAdLA
cPAbHAdMAcFAcVAcHAcQAcKHAdTSHAeNAcAbIbEEbHcUbOOb@6505bUEcEbAUEcIcTONE-2@6512b3b4b5b6
uNEW TAI LUE LETTER HIGH QA@6528hLOW QAgHIGH KAcXAcNGAiLOW KAcXAcNGAhHIGH TSAdSAcYAhLOW TSAdSAcYA
gHIGH TAbHAdNAhLOW TAbHAdNAgHIGH PAbHAdMAhLOW PAbHAdMAgHIGH FAcVAcLAhLOW FAcVAcLAgHIGH HAcDAcBA
hLOW HAcDAcBAgHIGH KVAdXVAiLOW KVAdXVAhHIGH SUAiLOW SUAoVOWEL SIGN VOWEL SHORTENER@6576pAAcIIcUaU
cEbAEcOaAcUEcAYbAYdUYcOYbAYdUEYdIYnLETTER FINAL VbNGb@6595bMbKbDbBoTONE MARK-1b2lDIGIT ZERO@6608
eONEdTWOcHREEfFOURdIVEeSIXcEVENfEIGHTfNINEkTHAM DIGIT ONEoSIGN LAE@6622aVvKHMER SYMBOL PATHAMASAT
kMUOY KOETjPII KOETiBEI KOEThUON KOETjPRAM KOETf-MUOY KOETjPII KOETiBEI KOEThUON KOEToDAP KOET
f-MUOY KOETjPII KOETiBEI KOEThUON KOETjPRAM KOETnTUTEYASATjMUOY ROCiPII ROChBEI ROCgUON ROC
iPRAM ROCe-MUOY ROCiPII ROChBEI ROCgUON ROCnDAP ROCe-MUOY ROCiPII ROChBEI ROCgUON ROCiPRAM ROC
zaBUGINESE LETTER KAcGAcNGAbKAePAcBAcMAbPAdTAcDAcNAbRAdCAcJAcNYAbCAeYAcRAcLAcVAcSAcAbHA
jVOWEL SIGN IbUbEbObAEnPALLAWA@6686hEND OF SECTIONxTAI THAM LETTER HIGH KAbHAcXAiLOW KAbXAcHAhNGA
dHIGH CAbHAiLOW CAcSAcCHAhNYAdRATAeHIGH RATHAkDAcLOW RATHAjRANAeHIGH TAbHAiLOW TAbHAhNAcBAcHIGH PA
bHAdFAhLOW PAcFAcPHAhMAcLOW YAgHIGH YAhRAbUEdLAbUEdWAcHIGH SHAcSAcAcHAhLLAdAbLOW HAgIaIcUaUcEEcOO
cLAEdGREAT SApCONSONANT SIGN MEDIAL RAcLAjLA TANG LAIzbSIGN MAI KANG LAIrCONSONANT SIGN FINAL NGA
jLOW PAgHIGH RATHA OR LOW PAuMAcBAcSArSIGN SAKOT@6752kVOWEL SIGN AbMAI SAThAAcTALL AAhIaIcUEbUE
c@6761aUcOaA BELOWhYcEbAEcOOcAIcTHAM AIhOA ABOVEtSIGN MAI KANGiTONE-1b2gKHUEN TONE-3b4b5mRA HAAM
hMAI SAMhKHUEN-LUE KARANuCOMBINING CRYPTOGRAMMIC DOT@6783zcHORA DIGIT ZEROeONEdTWOcHREEfFOURdIVE
eSIXcEVENfEIGHTfNINEpTHAM DIGIT ZERO@6800eONEdTWOcHREEfFOURdIVEeSIXcEVENfEIGHTfNINE
pSIGN WIANG@6816aWAAKjSAWANfKEOWeHOYdDOKMAIgREVERSED ROTATED RANAvMAI YAMOKjKAANaKUUhSATKAANaKUU
kHANGeCAANGtCOMBINING DOUBLED CIRCUMFLEX ACCENT@6832yIAERESIS-RINGoINFINITYiDOWNWARDS ARROW
pTRIPLE DOTkX-X BELOWjWIGGLY LINE BELOWrOPEN MARK BELOWpDOUBLE OPEN MARK BELOW
wLIGHT CENTRALIZATION STROKE BELOWziSTRONG CENTRALIZATION STROKE BELOWzjPARENTHESES ABOVE
rDOUBLE PARENTHESES ABOVEyPARENTHESES BELOWfOVERLAYtLATIN SMALL LETTER W BELOWhTURNED W BELOW
zhEFT PARENTHESIS ABOVE LEFTzcRIGHT PARENTHESIS ABOVE RIGHTzeLEFT PARENTHESIS BELOW LEFT
zcRIGHT PARENTHESIS BELOW RIGHTzeSQUARE BRACKETS ABOVEvNUMBER SIGN ABOVE
rINVERTED DOUBLE ARCH ABOVEzbPLUS SIGN ABOVEpDOUBLE PLUS SIGN ABOVEfBELOWwTRIPLE ACUTE ACCENT
tLATIN SMALL LETTER INSULAR GbRbTznBALINESE SIGN ULU RICEM@6912fCANDRAkCECEKfSURANGgBISAH
kLETTER AKARAa TEDUNGmIKARAa TEDUNGmUKARAa TEDUNGmRA REPAa TEDUNGoLA LENGAa TEDUNGpEKARAfAIKARA
gOKARAa TEDUNGmKAa MAHAPRANAmGAa GORAhNGAdCAa LACAhJAa JERAhNYAdTA LATIKfMURDA MAHAPRANA
sDA MURDA ALPAPRANAjMAHAPRANAsNA RAMBATjTAa TAWAhDAa MADUhNAcPAa KAPALiBAa KEMBANGkMAcYAcRAcLAcWA
cSA SAGAcPAf@6962cHAjSIGN REREKANmVOWEL SIGN TEDUNGgULUa SARIiSUKUa ILUTjRA REPAa TEDUNGoLA LENGA
a TEDUNGpTALINGa REPAeTEDUNGgREPA TEDUNGsPEPETa TEDUNGxADEG ADEGjLETTER KAF SASAKiHOT SASAK
kTZIR SASAKkEF SASAKiVE SASAKiZAL SASAKjASYURA SASAKlRCHAIC JNYAtDIGIT ZERO@6992eONEdTWOcHREEfFOUR
dIVEeSIXcEVENfEIGHTfNINEkPANTIdMADAgWINDUfCARIK PAMUNGKAHjSIKIePARERENnPAMENENG
iMUSICAL SYMBOL DONGdENGdUNGdANGa SURANGkINGdAENGeEUNGeAINGdNG GEDEjCOMBINING TEGEHfENDEPfKEMPUL
cLIgJEGOGANhKEMPUL WITH JEGOGANpLI WITH JEGOGANtBENDEfGONGoRIGHT-HAND OPEN DUGcAGiCLOSED TUKcAK
vLEFT-HAND OPEN PANGdUNGjCLOSED PLAKcUKlOPEN PINGzjPANTI LANTANGlMADA LANTANG
xSUNDANESE SIGN PANYECEK@7040fGLAYARfWISADoLETTER AbIbUbAEcObEaUcKAcQAcGAcNGAdCAcJAcZAcNYAdTAcDA
cNAcPAcFAcVAcBAcMAcYAcRAcLAcWAcSAcXAcHAjCONSONANT SIGN PAMINGKALhNYAKRAeIKUwVOWEL SIGN PANGHULU
fYUKUeAELAENGhOLONGgMEPETfNEULEUNGvSIGN PAMAAEHhVIRAMAlCONSONANT SIGN PASANGAN MAcWAzbLETTER KHA
dSYAkDIGIT ZEROeONEdTWOcHREEfFOURdIVEeSIXcEVENfEIGHTfNINEkAVAGRAHAiLETTER REUdLEUdBHAdFINAL KbM
yBATAK LETTER AbSIMALUNGUN AmHAcSIMALUNGUN HAnMANDAILING HAnBAcKARO BAhPAcSIMALUNGUN PAnNA
cMANDAILING NAnWAcSIMALUNGUN WAnPAKPAK WAjGAcSIMALUNGUN GAnJAcDAcRAcSIMALUNGUN RAnMAcSIMALUNGUN MA
mOUTHERN TAlNORTHERN TAlSAbIMALUNGUN SAnMANDAILING SAnYAcSIMALUNGUN YAnNGAdLAcSIMALUNGUN LAnNYAdCA
cNDAdMBAdIbUiSIGN TOMPIkVOWEL SIGN EbPAKPAK EiEEcIbKARO IgObKARO OgUa FOR SIMALUNGUN SA
zfCONSONANT SIGN NGcHqPANGOLATfONGONANkSYMBOL BINDU NA METEK@7164iPINARBORASkJUDULfPANGOLAT
zcLEPCHA LETTER KAbLAcHAdGAbLAdNGAdCAbHAdJAcNYAdTAbHAdDAcNAcPAbLAcHAdFAbLAdBAbLAdMAbLAdTSAbHAeDZA
dYAcRAcLAcHAbLAdVAcSAbHAdWAcAiSUBJOINED LETTER YAcRAtVOWEL SIGN AAcIbOaOcUaUcEmCONSONANT SIGN KbM
bLbNbPbRbTbNYIN-DOhKANGtSIGN RANdNUKTAkPUNCTUATION TA-ROL@7227gNYET THYOOM TA-ROLsCER-WA
gTSHOOK CER-WAh@7231sDIGIT ZEROeONEdTWOcHREEfFOURdIVEeSIXcEVENfEIGHTfNINEkLETTER TTA@7245bHAeDDA
rOL CHIKI DIGIT ZEROeONEdTWOcHREEfFOURdIVEeSIXcEVENfEIGHTfNINEkLETTER LAcATbGbNGcLcLAAdAAKbJbMbW
dLIcISbHbNYcRcLUcUCbDbNNcYcLEcEPbDDcNbRRdLOcOTTcBbVbHjMU TTUDDAGkGAAHLAA TTUDDAAG
qMU-GAAHLAA TTUDDAAGtRELAAfPHAARKAAiAHADePUNCTUATION MUCAADgDOUBLE MUCAAD
zjCYRILLIC SMALL LETTER ROUNDED VEkLONG-LEGGED DEoNARROW OiWIDE EShTALL TEgHREE-LEGGED TE
oALL HARD SIGNjYATiUNBLENDED UKzjGEORGIAN MTAVRULI CAPITAL LETTER AN@7312cBANdGANdDONdENcVINdZEN
dTANdINcKANdLASdMANdNARdONcPARdZHAReRAEdSANdTARdUNcPHAReKHAReGHANeQARdSHINeCHINdANdJILdCILcHAReXAN
dJHANeHAEcEbIEdWEcHARcOEdFIcYNcELIFIfTURNED GANkAINcEN@7357dHARD SIGNjLABIAL SIGN
ztSUNDANESE PUNCTUATION BINDU SURYAfPANGLONGhURNAMAhCAKRAfLEU SATANGAlKA SATANGAkDA SATANGA
kBA SATANGAznVEDIC TONE KARSHANA@7376iSHARAfPRENKHAmSIGN NIHSHVASAjYAJURVEDIC MIDLINE SVARITA
zgTONE YAJURVEDIC AGGRAVATED INDEPENDENT SVARITAzfINDEPENDENT SVARITAtKATHAKA INDEPENDENT SVARITA
znCANDRA BELOWmYAJURVEDIC KATHAKA INDEPENDENT SVARITA SCHROEDERzxDOUBLE SVARITAoTRIPLE SVARITA
oKATHAKA ANUDATTAqDOT BELOWjTWO DOTS BELOWnHREE DOTS BELOWqRIGVEDIC KASHMIRI INDEPENDENT SVARITA
zmATHARVAVEDIC INDEPENDENT SVARITAzmSIGN VISARGA SVARITAhUDATTAoREVERSED VISARGA UDATTA
xVISARGA ANUDATTAqREVERSED VISARGA ANUDATTAzaVISARGA UDATTA WITH TAILqANUDATTA WITH TAIL
zbANUSVARA ANTARGOMUKHAmBAHIRGOMUKHAmVAMAGOMUKHAa WITH TAILzfTIRYAKgHEXIFORM LONG ANUSVARA
wLONG ANUSVARAnRTHANG LONG ANUSVARAuANUSVARA UBHAYATO MUKHAwRDHAVISARGAmROTATED ARDHAVISARGA
zaTONE CANDRA ABOVErSIGN JIHVAMULIYAlUPADHMANIYAlATIKRAMAnTONE RING ABOVEkDOUBLE RING ABOVE
wSIGN DOUBLE ANUSVARA ANTARGOMUKHAzoLATIN LETTER SMALL CAPITAL A@7424aExSMALL LETTER TURNED AE
wLETTER SMALL CAPITAL BARRED BiCbDbETHc@7431wSMALL LETTER TURNED OPEN EgIvLETTER SMALL CAPITAL JbK
bL WITH STROKEnMbREVERSED NkOaPEN OzcSMALL LETTER SIDEWAYS OaPEN Of WITH STROKEwTURNED OE
wLETTER SMALL CAPITAL OUxSMALL LETTER TOP HALF OkBOTTOM HALF OzbLETTER SMALL CAPITAL PbREVERSED R
kTURNED Rh@7451bUwSMALL LETTER SIDEWAYS UbDIAERESIZED UnTURNED MzfLETTER SMALL CAPITAL VbWbZbEZH
rVOICED LARYNGEAL SPIRANTyAINqGREEK LETTER SMALL CAPITAL GAMMAfLAMDAfPIcRHOdPSI
zfCYRILLIC LETTER SMALL CAPITAL ELzhMODIFIER LETTER CAPITAL AaEcBaARRED BiDbEbREVERSED EkGbHbIbJbK
bLbMbNbREVERSED NkOaUcPbRbTbUbWjSMALL AbTURNED AiALPHAfTURNED AEjBbDbEbSCHWAfOPEN EgTURNED OPEN E
nGbTURNED IiKbMbENGdOaPEN OgTOP HALF OkBOTTOM HALF OnPbTbUbSIDEWAYS UkTURNED MiVbAINdBETA
eGREEK GAMMAlDELTAfGREEK PHIjCHIzaLATIN SUBSCRIPT SMALL LETTER IbRbUbV
zfGREEK SUBSCRIPT SMALL LETTER BETAeGAMMAfRHOdPHIdCHIzhLATIN SMALL LETTER UEcB WITH MIDDLE TILDE
tD WITH MIDDLE TILDEtF WITH MIDDLE TILDEtM WITH MIDDLE TILDEtN WITH MIDDLE TILDE
tP WITH MIDDLE TILDEtR WITH MIDDLE TILDEmFISHHOOK AND MIDDLE TILDEzhS WITH MIDDLE TILDE
tT WITH MIDDLE TILDEtZ WITH MIDDLE TILDEtTURNED GzcMODIFIER LETTER CYRILLIC EN
zcLATIN SMALL LETTER INSULAR GjTH WITH STRIKETHROUGHzdCAPITAL LETTER I WITH STROKE
zdLETTER IOTA WITH STROKEqP WITH STROKEuCAPITAL LETTER U WITH STROKEzdLETTER UPSILON WITH STROKE
tB WITH PALATAL HOOKtD WITH PALATAL HOOKtF WITH PALATAL HOOKtG WITH PALATAL HOOK
tK WITH PALATAL HOOKtL WITH PALATAL HOOKtM WITH PALATAL HOOKtN WITH PALATAL HOOK
tP WITH PALATAL HOOKtR WITH PALATAL HOOKtS WITH PALATAL HOOKtESH WITH PALATAL HOOK
vV WITH PALATAL HOOKtX WITH PALATAL HOOKtZ WITH PALATAL HOOKtA WITH RETROFLEX HOOK
uLPHA WITH RETROFLEX HOOKzaD WITH HOOK AND TAILuE WITH RETROFLEX HOOKvOPEN E WITH RETROFLEX HOOK
zbREVERSED OPEN E WITH RETROFLEX HOOKzkSCHWA WITH RETROFLEX HOOKzaI WITH RETROFLEX HOOK
vOPEN O WITH RETROFLEX HOOKzbESH WITH RETROFLEX HOOKxU WITH RETROFLEX HOOKvEZH WITH RETROFLEX HOOK
zrMODIFIER LETTER SMALL TURNED ALPHAmCa WITH CURLlETHdREVERSED OPEN EpFbDOTLESS J WITH STROKE
vSCRIPT GiTURNED HiI WITH STROKEmOTAeCAPITAL Ia WITH STROKEvJ WITH CROSSED-TAIL
tL WITH RETROFLEX HOOKoPALATAL HOOKtCAPITAL LjM WITH HOOKlTURNED M WITH LONG LEGwN WITH LEFT HOOK
jRETROFLEX HOOKvCAPITAL NjBARRED OiPHIdS WITH HOOKlESHdT WITH PALATAL HOOKtU BARePSILONhCAPITAL U
jV WITH HOOKlTURNED ViZa WITH RETROFLEX HOOKoCURLlEZHdTHETAzcCOMBINING DOTTED GRAVE ACCENT
mACUTE ACCENTtSNAKE BELOWkUSPENSION MARKpMACRON-ACUTEmGRAVE-MACRONmMACRON-GRAVEmACUTE-MACRON
mGRAVE-ACUTE-GRAVErACUTE-GRAVE-ACUTErLATIN SMALL LETTER R BELOWzbBREVE-MACRONmMACRON-BREVE
mDOUBLE CIRCUMFLEX ABOVExOGONEK ABOVEmZIGZAG BELOWmIS BELOWiUR ABOVEhS ABOVE
iLATIN SMALL LETTER FLATTENED OPEN A ABOVEwAEbObVcC CEDILLAjINSULAR DjETHdGoLETTER SMALL CAPITAL G
wSMALL LETTER KbLoLETTER SMALL CAPITAL LbMwSMALL LETTER NoLETTER SMALL CAPITAL NbR
wSMALL LETTER R ROTUNDAjSbLONG SgZbALPHAfBaETAeSCHWAfFbL WITH DOUBLE MIDDLE TILDE
zbO WITH LIGHT CENTRALIZATION STROKEzjPbESHdU WITH LIGHT CENTRALIZATION STROKEzjWbA WITH DIAERESIS
qO WITH DIAERESISqU WITH DIAERESISzkUP TACK ABOVEnKAVYKA ABOVE RIGHTfLEFTrDOT ABOVE LEFT
oWIDE INVERTED BRIDGE BELOWzbDOT BELOW LEFTnELETION MARKmOUBLE INVERTED BREVE BELOW
zcALMOST EQUAL TO BELOWvLEFT ARROWHEAD ABOVEuRIGHT ARROWHEAD AND DOWN ARROWHEAD BELOW
zzaLATIN CAPITAL LETTER A WITH RING BELOWzhSMALL LETTER A WITH RING BELOW
zfCAPITAL LETTER B WITH DOT ABOVEzgSMALL LETTER B WITH DOT ABOVEzeCAPITAL LETTER B WITH DOT BELOW
zgSMALL LETTER B WITH DOT BELOWzeCAPITAL LETTER B WITH LINE BELOWzhSMALL LETTER B WITH LINE BELOW
zfCAPITAL LETTER C WITH CEDILLA AND ACUTEzoSMALL LETTER C WITH CEDILLA AND ACUTE
zmCAPITAL LETTER D WITH DOT ABOVEzgSMALL LETTER D WITH DOT ABOVEzeCAPITAL LETTER D WITH DOT BELOW
zgSMALL LETTER D WITH DOT BELOWzeCAPITAL LETTER D WITH LINE BELOWzhSMALL LETTER D WITH LINE BELOW
zfCAPITAL LETTER D WITH CEDILLAzeSMALL LETTER D WITH CEDILLA
zcCAPITAL LETTER D WITH CIRCUMFLEX BELOWznSMALL LETTER D WITH CIRCUMFLEX BELOW
zlCAPITAL LETTER E WITH MACRON AND GRAVEznSMALL LETTER E WITH MACRON AND GRAVE
zlCAPITAL LETTER E WITH MACRON AND ACUTEznSMALL LETTER E WITH MACRON AND ACUTE
zlCAPITAL LETTER E WITH CIRCUMFLEX BELOWznSMALL LETTER E WITH CIRCUMFLEX BELOW
zlCAPITAL LETTER E WITH TILDE BELOWziSMALL LETTER E WITH TILDE BELOW
zgCAPITAL LETTER E WITH CEDILLA AND BREVEzoSMALL LETTER E WITH CEDILLA AND BREVE
zmCAPITAL LETTER F WITH DOT ABOVEzgSMALL LETTER F WITH DOT ABOVEzeCAPITAL LETTER G WITH MACRON
zdSMALL LETTER G WITH MACRONzbCAPITAL LETTER H WITH DOT ABOVEzgSMALL LETTER H WITH DOT ABOVE
zeCAPITAL LETTER H WITH DOT BELOWzgSMALL LETTER H WITH DOT BELOWzeCAPITAL LETTER H WITH DIAERESIS
zgSMALL LETTER H WITH DIAERESISzeCAPITAL LETTER H WITH CEDILLAzeSMALL LETTER H WITH CEDILLA
zcCAPITAL LETTER H WITH BREVE BELOWziSMALL LETTER H WITH BREVE BELOW
zgCAPITAL LETTER I WITH TILDE BELOWziSMALL LETTER I WITH TILDE BELOW
zgCAPITAL LETTER I WITH DIAERESIS AND ACUTEzqSMALL LETTER I WITH DIAERESIS AND ACUTE
zoCAPITAL LETTER K WITH ACUTEzcSMALL LETTER K WITH ACUTEzaCAPITAL LETTER K WITH DOT BELOW
zgSMALL LETTER K WITH DOT BELOWzeCAPITAL LETTER K WITH LINE BELOWzhSMALL LETTER K WITH LINE BELOW
zfCAPITAL LETTER L WITH DOT BELOWzgSMALL LETTER L WITH DOT BELOW
zeCAPITAL LETTER L WITH DOT BELOW AND MACRONzrSMALL LETTER L WITH DOT BELOW AND MACRON
zpCAPITAL LETTER L WITH LINE BELOWzhSMALL LETTER L WITH LINE BELOW
zfCAPITAL LETTER L WITH CIRCUMFLEX BELOWznSMALL LETTER L WITH CIRCUMFLEX BELOW
zlCAPITAL LETTER M WITH ACUTEzcSMALL LETTER M WITH ACUTEzaCAPITAL LETTER M WITH DOT ABOVE
zgSMALL LETTER M WITH DOT ABOVEzeCAPITAL LETTER M WITH DOT BELOWzgSMALL LETTER M WITH DOT BELOW
zeCAPITAL LETTER N WITH DOT ABOVEzgSMALL LETTER N WITH DOT ABOVEzeCAPITAL LETTER N WITH DOT BELOW
zgSMALL LETTER N WITH DOT BELOWzeCAPITAL LETTER N WITH LINE BELOWzhSMALL LETTER N WITH LINE BELOW
zfCAPITAL LETTER N WITH CIRCUMFLEX BELOWznSMALL LETTER N WITH CIRCUMFLEX BELOW
zlCAPITAL LETTER O WITH TILDE AND ACUTEzmSMALL LETTER O WITH TILDE AND ACUTE
zkCAPITAL LETTER O WITH TILDE AND DIAERESISzqSMALL LETTER O WITH TILDE AND DIAERESIS
zoCAPITAL LETTER O WITH MACRON AND GRAVEznSMALL LETTER O WITH MACRON AND GRAVE
zlCAPITAL LETTER O WITH MACRON AND ACUTEznSMALL LETTER O WITH MACRON AND ACUTE
zlCAPITAL LETTER P WITH ACUTEzcSMALL LETTER P WITH ACUTEzaCAPITAL LETTER P WITH DOT ABOVE
zgSMALL LETTER P WITH DOT ABOVEzeCAPITAL LETTER R WITH DOT ABOVEzgSMALL LETTER R WITH DOT ABOVE
zeCAPITAL LETTER R WITH DOT BELOWzgSMALL LETTER R WITH DOT BELOW
zeCAPITAL LETTER R WITH DOT BELOW AND MACRONzrSMALL LETTER R WITH DOT BELOW AND MACRON
zpCAPITAL LETTER R WITH LINE BELOWzhSMALL LETTER R WITH LINE BELOW
zfCAPITAL LETTER S WITH DOT ABOVEzgSMALL LETTER S WITH DOT ABOVEzeCAPITAL LETTER S WITH DOT BELOW
zgSMALL LETTER S WITH DOT BELOWzeCAPITAL LETTER S WITH ACUTE AND DOT ABOVE
zqSMALL LETTER S WITH ACUTE AND DOT ABOVEzoCAPITAL LETTER S WITH CARON AND DOT ABOVE
zqSMALL LETTER S WITH CARON AND DOT ABOVEzoCAPITAL LETTER S WITH DOT BELOW AND DOT ABOVE
zuSMALL LETTER S WITH DOT BELOW AND DOT ABOVEzsCAPITAL LETTER T WITH DOT ABOVE
zgSMALL LETTER T WITH DOT ABOVEzeCAPITAL LETTER T WITH DOT BELOWzgSMALL LETTER T WITH DOT BELOW
zeCAPITAL LETTER T WITH LINE BELOWzhSMALL LETTER T WITH LINE BELOW
zfCAPITAL LETTER T WITH CIRCUMFLEX BELOWznSMALL LETTER T WITH CIRCUMFLEX BELOW
zlCAPITAL LETTER U WITH DIAERESIS BELOWzmSMALL LETTER U WITH DIAERESIS BELOW
zkCAPITAL LETTER U WITH TILDE BELOWziSMALL LETTER U WITH TILDE BELOW
zgCAPITAL LETTER U WITH CIRCUMFLEX BELOWznSMALL LETTER U WITH CIRCUMFLEX BELOW
zlCAPITAL LETTER U WITH TILDE AND ACUTEzmSMALL LETTER U WITH TILDE AND ACUTE
zkCAPITAL LETTER U WITH MACRON AND DIAERESISzrSMALL LETTER U WITH MACRON AND DIAERESIS
zpCAPITAL LETTER V WITH TILDEzcSMALL LETTER V WITH TILDEzaCAPITAL LETTER V WITH DOT BELOW
zgSMALL LETTER V WITH DOT BELOWzeCAPITAL LETTER W WITH GRAVEzcSMALL LETTER W WITH GRAVE
zaCAPITAL LETTER W WITH ACUTEzcSMALL LETTER W WITH ACUTEzaCAPITAL LETTER W WITH DIAERESIS
zgSMALL LETTER W WITH DIAERESISzeCAPITAL LETTER W WITH DOT ABOVEzgSMALL LETTER W WITH DOT ABOVE
zeCAPITAL LETTER W WITH DOT BELOWzgSMALL LETTER W WITH DOT BELOWzeCAPITAL LETTER X WITH DOT ABOVE
zgSMALL LETTER X WITH DOT ABOVEzeCAPITAL LETTER X WITH DIAERESISzgSMALL LETTER X WITH DIAERESIS
zeCAPITAL LETTER Y WITH DOT ABOVEzgSMALL LETTER Y WITH DOT ABOVEzeCAPITAL LETTER Z WITH CIRCUMFLEX
zhSMALL LETTER Z WITH CIRCUMFLEXzfCAPITAL LETTER Z WITH DOT BELOWzgSMALL LETTER Z WITH DOT BELOW
zeCAPITAL LETTER Z WITH LINE BELOWzhSMALL LETTER Z WITH LINE BELOWrH WITH LINE BELOW
rT WITH DIAERESISqW WITH RING ABOVErY WITH RING ABOVErA WITH RIGHT HALF RINGwLONG S WITH DOT ABOVE
iIAGONAL STROKEpHIGH STROKEzlCAPITAL LETTER SHARP SwSMALL LETTER DELTA
sCAPITAL LETTER A WITH DOT BELOWzgSMALL LETTER A WITH DOT BELOWzeCAPITAL LETTER A WITH HOOK ABOVE
zhSMALL LETTER A WITH HOOK ABOVEzfCAPITAL LETTER A WITH CIRCUMFLEX AND ACUTE
zrSMALL LETTER A WITH CIRCUMFLEX AND ACUTEzpCAPITAL LETTER A WITH CIRCUMFLEX AND GRAVE
zrSMALL LETTER A WITH CIRCUMFLEX AND GRAVEzpCAPITAL LETTER A WITH CIRCUMFLEX AND HOOK ABOVE
zwSMALL LETTER A WITH CIRCUMFLEX AND HOOK ABOVEzuCAPITAL LETTER A WITH CIRCUMFLEX AND TILDE
zrSMALL LETTER A WITH CIRCUMFLEX AND TILDEzpCAPITAL LETTER A WITH CIRCUMFLEX AND DOT BELOW
zvSMALL LETTER A WITH CIRCUMFLEX AND DOT BELOWztCAPITAL LETTER A WITH BREVE AND ACUTE
zmSMALL LETTER A WITH BREVE AND ACUTEzkCAPITAL LETTER A WITH BREVE AND GRAVE
zmSMALL LETTER A WITH BREVE AND GRAVEzkCAPITAL LETTER A WITH BREVE AND HOOK ABOVE
zrSMALL LETTER A WITH BREVE AND HOOK ABOVEzpCAPITAL LETTER A WITH BREVE AND TILDE
zmSMALL LETTER A WITH BREVE AND TILDEzkCAPITAL LETTER A WITH BREVE AND DOT BELOW
zqSMALL LETTER A WITH BREVE AND DOT BELOWzoCAPITAL LETTER E WITH DOT BELOW
zgSMALL LETTER E WITH DOT BELOWzeCAPITAL LETTER E WITH HOOK ABOVEzhSMALL LETTER E WITH HOOK ABOVE
zfCAPITAL LETTER E WITH TILDEzcSMALL LETTER E WITH TILDE
zaCAPITAL LETTER E WITH CIRCUMFLEX AND ACUTEzrSMALL LETTER E WITH CIRCUMFLEX AND ACUTE
zpCAPITAL LETTER E WITH CIRCUMFLEX AND GRAVEzrSMALL LETTER E WITH CIRCUMFLEX AND GRAVE
zpCAPITAL LETTER E WITH CIRCUMFLEX AND HOOK ABOVEzwSMALL LETTER E WITH CIRCUMFLEX AND HOOK ABOVE
zuCAPITAL LETTER E WITH CIRCUMFLEX AND TILDEzrSMALL LETTER E WITH CIRCUMFLEX AND TILDE
zpCAPITAL LETTER E WITH CIRCUMFLEX AND DOT BELOWzvSMALL LETTER E WITH CIRCUMFLEX AND DOT BELOW
ztCAPITAL LETTER I WITH HOOK ABOVEzhSMALL LETTER I WITH HOOK ABOVE
zfCAPITAL LETTER I WITH DOT BELOWzgSMALL LETTER I WITH DOT BELOWzeCAPITAL LETTER O WITH DOT BELOW
zgSMALL LETTER O WITH DOT BELOWzeCAPITAL LETTER O WITH HOOK ABOVEzhSMALL LETTER O WITH HOOK ABOVE
zfCAPITAL LETTER O WITH CIRCUMFLEX AND ACUTEzrSMALL LETTER O WITH CIRCUMFLEX AND ACUTE
zpCAPITAL LETTER O WITH CIRCUMFLEX AND GRAVEzrSMALL LETTER O WITH CIRCUMFLEX AND GRAVE
zpCAPITAL LETTER O WITH CIRCUMFLEX AND HOOK ABOVEzwSMALL LETTER O WITH CIRCUMFLEX AND HOOK ABOVE
zuCAPITAL LETTER O WITH CIRCUMFLEX AND TILDEzrSMALL LETTER O WITH CIRCUMFLEX AND TILDE
zpCAPITAL LETTER O WITH CIRCUMFLEX AND DOT BELOWzvSMALL LETTER O WITH CIRCUMFLEX AND DOT BELOW
ztCAPITAL LETTER O WITH HORN AND ACUTEzlSMALL LETTER O WITH HORN AND ACUTE
zjCAPITAL LETTER O WITH HORN AND GRAVEzlSMALL LETTER O WITH HORN AND GRAVE
zjCAPITAL LETTER O WITH HORN AND HOOK ABOVEzqSMALL LETTER O WITH HORN AND HOOK ABOVE
zoCAPITAL LETTER O WITH HORN AND TILDEzlSMALL LETTER O WITH HORN AND TILDE
zjCAPITAL LETTER O WITH HORN AND DOT BELOWzpSMALL LETTER O WITH HORN AND DOT BELOW
znCAPITAL LETTER U WITH DOT BELOWzgSMALL LETTER U WITH DOT BELOWzeCAPITAL LETTER U WITH HOOK ABOVE
zhSMALL LETTER U WITH HOOK ABOVEzfCAPITAL LETTER U WITH HORN AND ACUTE
zlSMALL LETTER U WITH HORN AND ACUTEzjCAPITAL LETTER U WITH HORN AND GRAVE
zlSMALL LETTER U WITH HORN AND GRAVEzjCAPITAL LETTER U WITH HORN AND HOOK ABOVE
zqSMALL LETTER U WITH HORN AND HOOK ABOVEzoCAPITAL LETTER U WITH HORN AND TILDE
zlSMALL LETTER U WITH HORN AND TILDEzjCAPITAL LETTER U WITH HORN AND DOT BELOW
zpSMALL LETTER U WITH HORN AND DOT BELOWznCAPITAL LETTER Y WITH GRAVEzcSMALL LETTER Y WITH GRAVE
zaCAPITAL LETTER Y WITH DOT BELOWzgSMALL LETTER Y WITH DOT BELOWzeCAPITAL LETTER Y WITH HOOK ABOVE
zhSMALL LETTER Y WITH HOOK ABOVEzfCAPITAL LETTER Y WITH TILDEzcSMALL LETTER Y WITH TILDE
zaCAPITAL LETTER MIDDLE-WELSH LLzfSMALL LETTER MIDDLE-WELSH LLzdCAPITAL LETTER MIDDLE-WELSH V
zeSMALL LETTER MIDDLE-WELSH VzcCAPITAL LETTER Y WITH LOOPzbSMALL LETTER Y WITH LOOP
zfGREEK SMALL LETTER ALPHA WITH PSILIfDASIAfPSILI AND VARIApDASIA AND VARIApPSILI AND OXIA
oDASIA AND OXIAoPSILI AND PERISPOMENIvDASIA AND PERISPOMENIzuCAPITAL LETTER ALPHA WITH PSILIfDASIA
fPSILI AND VARIApDASIA AND VARIApPSILI AND OXIAoDASIA AND OXIAoPSILI AND PERISPOMENI
vDASIA AND PERISPOMENIzwSMALL LETTER EPSILON WITH PSILIfDASIAfPSILI AND VARIApDASIA AND VARIA
pPSILI AND OXIAoDASIA AND OXIAzpCAPITAL LETTER EPSILON WITH PSILI@7960fDASIAfPSILI AND VARIA
pDASIA AND VARIApPSILI AND OXIAoDASIA AND OXIAzrSMALL LETTER ETA WITH PSILI@7968fDASIA
fPSILI AND VARIApDASIA AND VARIApPSILI AND OXIAoDASIA AND OXIAoPSILI AND PERISPOMENI
vDASIA AND PERISPOMENIzsCAPITAL LETTER ETA WITH PSILIfDASIAfPSILI AND VARIApDASIA AND VARIA
pPSILI AND OXIAoDASIA AND OXIAoPSILI AND PERISPOMENIvDASIA AND PERISPOMENI
zuSMALL LETTER IOTA WITH PSILIfDASIAfPSILI AND VARIApDASIA AND VARIApPSILI AND OXIAoDASIA AND OXIA
oPSILI AND PERISPOMENIvDASIA AND PERISPOMENIztCAPITAL LETTER IOTA WITH PSILIfDASIAfPSILI AND VARIA
pDASIA AND VARIApPSILI AND OXIAoDASIA AND OXIAoPSILI AND PERISPOMENIvDASIA AND PERISPOMENI
zvSMALL LETTER OMICRON WITH PSILIfDASIAfPSILI AND VARIApDASIA AND VARIApPSILI AND OXIA
oDASIA AND OXIAzpCAPITAL LETTER OMICRON WITH PSILI@8008fDASIAfPSILI AND VARIApDASIA AND VARIA
pPSILI AND OXIAoDASIA AND OXIAzrSMALL LETTER UPSILON WITH PSILI@8016fDASIAfPSILI AND VARIA
pDASIA AND VARIApPSILI AND OXIAoDASIA AND OXIAoPSILI AND PERISPOMENIvDASIA AND PERISPOMENI
zwCAPITAL LETTER UPSILON WITH DASIA@8025a AND VARIA@8027fOXIA@8029ePERISPOMENI@8031
zySMALL LETTER OMEGA WITH PSILIfDASIAfPSILI AND VARIApDASIA AND VARIApPSILI AND OXIA
oDASIA AND OXIAoPSILI AND PERISPOMENIvDASIA AND PERISPOMENIzuCAPITAL LETTER OMEGA WITH PSILIfDASIA
fPSILI AND VARIApDASIA AND VARIApPSILI AND OXIAoDASIA AND OXIAoPSILI AND PERISPOMENI
vDASIA AND PERISPOMENIzwSMALL LETTER ALPHA WITH VARIAfOXIApEPSILON WITH VARIAfOXIAqTA WITH VARIA
fOXIAnIOTA WITH VARIAfOXIAoOMICRON WITH VARIAfOXIArUPSILON WITH VARIAfOXIArOMEGA WITH VARIAfOXIA
pALPHA WITH PSILI AND YPOGEGRAMMENI@8064xDASIA AND YPOGEGRAMMENIxPSILI AND VARIA AND YPOGEGRAMMENI
ziDASIA AND VARIA AND YPOGEGRAMMENIziPSILI AND OXIA AND YPOGEGRAMMENI
zhDASIA AND OXIA AND YPOGEGRAMMENIzhPSILI AND PERISPOMENI AND YPOGEGRAMMENI
zoDASIA AND PERISPOMENI AND YPOGEGRAMMENIzznCAPITAL LETTER ALPHA WITH PSILI AND PROSGEGRAMMENI
yDASIA AND PROSGEGRAMMENIyPSILI AND VARIA AND PROSGEGRAMMENIzjDASIA AND VARIA AND PROSGEGRAMMENI
zjPSILI AND OXIA AND PROSGEGRAMMENIziDASIA AND OXIA AND PROSGEGRAMMENI
ziPSILI AND PERISPOMENI AND PROSGEGRAMMENIzpDASIA AND PERISPOMENI AND PROSGEGRAMMENI
zzqSMALL LETTER ETA WITH PSILI AND YPOGEGRAMMENIxDASIA AND YPOGEGRAMMENI
xPSILI AND VARIA AND YPOGEGRAMMENIziDASIA AND VARIA AND YPOGEGRAMMENI
ziPSILI AND OXIA AND YPOGEGRAMMENIzhDASIA AND OXIA AND YPOGEGRAMMENI
zhPSILI AND PERISPOMENI AND YPOGEGRAMMENIzoDASIA AND PERISPOMENI AND YPOGEGRAMMENI
zzlCAPITAL LETTER ETA WITH PSILI AND PROSGEGRAMMENIyDASIA AND PROSGEGRAMMENI
yPSILI AND VARIA AND PROSGEGRAMMENIzjDASIA AND VARIA AND PROSGEGRAMMENI
zjPSILI AND OXIA AND PROSGEGRAMMENIziDASIA AND OXIA AND PROSGEGRAMMENI
ziPSILI AND PERISPOMENI AND PROSGEGRAMMENIzpDASIA AND PERISPOMENI AND PROSGEGRAMMENI
zzoSMALL LETTER OMEGA WITH PSILI AND YPOGEGRAMMENIxDASIA AND YPOGEGRAMMENI
xPSILI AND VARIA AND YPOGEGRAMMENIziDASIA AND VARIA AND YPOGEGRAMMENI
ziPSILI AND OXIA AND YPOGEGRAMMENIzhDASIA AND OXIA AND YPOGEGRAMMENI
zhPSILI AND PERISPOMENI AND YPOGEGRAMMENIzoDASIA AND PERISPOMENI AND YPOGEGRAMMENI
zznCAPITAL LETTER OMEGA WITH PSILI AND PROSGEGRAMMENIyDASIA AND PROSGEGRAMMENI
yPSILI AND VARIA AND PROSGEGRAMMENIzjDASIA AND VARIA AND PROSGEGRAMMENI
zjPSILI AND OXIA AND PROSGEGRAMMENIziDASIA AND OXIA AND PROSGEGRAMMENI
ziPSILI AND PERISPOMENI AND PROSGEGRAMMENIzpDASIA AND PERISPOMENI AND PROSGEGRAMMENI
zzqSMALL LETTER ALPHA WITH VRACHYgMACRONgVARIA AND YPOGEGRAMMENIxYPOGEGRAMMENI
nOXIA AND YPOGEGRAMMENIwPERISPOMENI@8118a AND YPOGEGRAMMENIzzdCAPITAL LETTER ALPHA WITH VRACHY
gMACRONgVARIAfOXIAePROSGEGRAMMENIzpKORONIShPROSGEGRAMMENInSILIeERISPOMENI
lDIALYTIKA AND PERISPOMENIzaSMALL LETTER ETA WITH VARIA AND YPOGEGRAMMENIxYPOGEGRAMMENI
nOXIA AND YPOGEGRAMMENIwPERISPOMENI@8134a AND YPOGEGRAMMENIzzbCAPITAL LETTER EPSILON WITH VARIA
fOXIAqTA WITH VARIAfOXIAePROSGEGRAMMENIznPSILI AND VARIAfOXIAePERISPOMENI
vSMALL LETTER IOTA WITH VRACHYgMACRONgDIALYTIKA AND VARIAfOXIAsPERISPOMENI@8150
lDIALYTIKA AND PERISPOMENIzxCAPITAL LETTER IOTA WITH VRACHYgMACRONgVARIAfOXIA
zeDASIA AND VARIA@8157fOXIAePERISPOMENIvSMALL LETTER UPSILON WITH VRACHYgMACRON
gDIALYTIKA AND VARIAfOXIAzgRHO WITH PSILIfDASIAoUPSILON WITH PERISPOMENIlDIALYTIKA AND PERISPOMENI
zzbCAPITAL LETTER UPSILON WITH VRACHYgMACRONgVARIAfOXIArRHO WITH DASIAzeDIALYTIKA AND VARIAfOXIA
sVARIAfSMALL LETTER OMEGA WITH VARIA AND YPOGEGRAMMENI@8178xYPOGEGRAMMENInOXIA AND YPOGEGRAMMENI
wPERISPOMENI@8182a AND YPOGEGRAMMENIzzdCAPITAL LETTER OMICRON WITH VARIAfOXIApEGA WITH VARIAfOXIA
ePROSGEGRAMMENIzpOXIAeDASIAlEN QUAD@8192gM QUADgN SPACEhM SPACEiTHREE-PER-EM SPACE
sFOUR-PER-EM SPACErSIX-PER-EM SPACEqFIGURE SPACEmPUNCTUATION SPACErTHIN SPACEkHAIR SPACE
kZERO WIDTH SPACEfNON-JOINERkJOINERrLEFT-TO-RIGHT MARKsRIGHT-TO-LEFT MARKsHYPHEN
gNON-BREAKING HYPHENtFIGURE DASHlEN DASHgM DASHhHORIZONTAL BARoDOUBLE VERTICAL LINEnLOW LINE
pLEFT SINGLE QUOTATION MARKzbRIGHT SINGLE QUOTATION MARKzcSINGLE LOW-9 QUOTATION MARK
uHIGH-REVERSED-9 QUOTATION MARKzmLEFT DOUBLE QUOTATION MARKzbRIGHT DOUBLE QUOTATION MARK
zcDOUBLE LOW-9 QUOTATION MARKuHIGH-REVERSED-9 QUOTATION MARKzlAGGERfOUBLE DAGGERnBULLET
gTRIANGULAR BULLETrONE DOT LEADERoTWO DOT LEADERoHORIZONTAL ELLIPSISsYPHENATION POINT
rLINE SEPARATORoPARAGRAPH SEPARATORtLEFT-TO-RIGHT EMBEDDINGxRIGHT-TO-LEFT EMBEDDING
xPOP DIRECTIONAL FORMATTINGzbLEFT-TO-RIGHT OVERRIDEwRIGHT-TO-LEFT OVERRIDEwNARROW NO-BREAK SPACE
vPER MILLE SIGNkTEN THOUSAND SIGNuRIMEfDOUBLE PRIMEmTRIPLE PRIMEmREVERSED PRIMEfDOUBLE PRIME
mTRIPLE PRIMEvCARETfSINGLE LEFT-POINTING ANGLE QUOTATION MARKzjRIGHT-POINTING ANGLE QUOTATION MARK
zrREFERENCE MARKoDOUBLE EXCLAMATION MARKxINTERROBANGlOVERLINEiUNDERTIEiCHARACTER TIE
mARET INSERTION POINTvASTERISMiHYPHEN BULLETnFRACTION SLASHoLEFT SQUARE BRACKET WITH QUILL
zfRIGHT SQUARE BRACKET WITH QUILLzgDOUBLE QUESTION MARKuQUESTION EXCLAMATION MARK
zaEXCLAMATION QUESTION MARKzaTIRONIAN SIGN ETqREVERSED PILCROW SIGNvBLACK LEFTWARDS BULLET
qRIGHTWARDS BULLETxLOW ASTERISKmREVERSED SEMICOLONsCLOSE UPiTWO ASTERISKS ALIGNED VERTICALLY
zhCOMMERCIAL MINUS SIGNvSWUNG DASHkINVERTED UNDERTIErFLOWER PUNCTUATION MARKxTHREE DOT PUNCTUATION
vQUADRUPLE PRIMEpFOUR DOT PUNCTUATIONtIVE DOT PUNCTUATIONuTWO DOT PUNCTUATIONtFOUR DOT MARK
nDOTTED CROSSmTRICOLONiVERTICAL FOUR DOTSsMEDIUM MATHEMATICAL SPACEzaWORD JOINER
lFUNCTION APPLICATIONuINVISIBLE TIMESfSEPARATORjPLUSoLEFT-TO-RIGHT ISOLATE@8294
vRIGHT-TO-LEFT ISOLATEvFIRST STRONG ISOLATEuPOP DIRECTIONAL ISOLATExINHIBIT SYMMETRIC SWAPPING
zbACTIVATE SYMMETRIC SWAPPINGzcINHIBIT ARABIC FORM SHAPINGzcACTIVATE ARABIC FORM SHAPING
zdNATIONAL DIGIT SHAPESuOMINAL DIGIT SHAPESuSUPERSCRIPT ZEROeLATIN SMALL LETTER IuFOUR@8308dIVE
eSIXcEVENfEIGHTfNINEePLUS SIGNjMINUSfEQUALS SIGNlLEFT PARENTHESISqRIGHT PARENTHESIS
rLATIN SMALL LETTER NzfBSCRIPT ZEROeONEdTWOcHREEfFOURdIVEeSIXcEVENfEIGHTfNINEePLUS SIGNjMINUS
fEQUALS SIGNlLEFT PARENTHESISqRIGHT PARENTHESISzcLATIN SUBSCRIPT SMALL LETTER A@8336bEbObXbSCHWAfH
bKbLbMbNbPbSbTzfEURO-CURRENCY SIGN@8352sCOLON SIGNjRUZEIRO SIGNnFRENCH FRANC SIGNrLIRA SIGN
jMILL SIGNjNAIRA SIGNkPESETA SIGNlRUPEE SIGNkWON SIGNiNEW SHEQEL SIGNpDONG SIGNjEURO SIGNjKIP SIGN
iTUGRIK SIGNlDRACHMA SIGNmGERMAN PENNY SIGNrPESO SIGNjGUARANI SIGNmAUSTRAL SIGNmHRYVNIA SIGN
mCEDI SIGNjLIVRE TOURNOIS SIGNtSPESMILO SIGNnTENGE SIGNkINDIAN RUPEE SIGNrTURKISH LIRA SIGN
rNORDIC MARK SIGNqMANAT SIGNkRUBLE SIGNkLARI SIGNjBITCOIN SIGNmSOM SIGN
iCOMBINING LEFT HARPOON ABOVE@8400sRIGHT HARPOON ABOVEtLONG VERTICAL LINE OVERLAY
zbSHORT VERTICAL LINE OVERLAYzcANTICLOCKWISE ARROW ABOVEzaCLOCKWISE ARROW ABOVEvLEFT ARROW ABOVE
qRIGHT ARROW ABOVEpNG OVERLAYmCLOCKWISE RING OVERLAYwANTICLOCKWISE RING OVERLAYzbTHREE DOTS ABOVE
qFOUR DOTS ABOVEpENCLOSING CIRCLEgSQUAREgDIAMONDhCIRCLE BACKSLASHzbLEFT RIGHT ARROW ABOVE
wENCLOSING SCREENgKEYCAPgUPWARD POINTING TRIANGLEzjREVERSE SOLIDUS OVERLAY
xDOUBLE VERTICAL STROKE OVERLAYzfANNUITY SYMBOLoTRIPLE UNDERDOTpWIDE BRIDGE ABOVE
rLEFTWARDS ARROW OVERLAYwONG DOUBLE SOLIDUS OVERLAYzcRIGHTWARDS HARPOON WITH BARB DOWNWARDS
znLEFTWARDS HARPOON WITH BARB DOWNWARDSzi ARROW BELOWqRIGHT ARROW BELOWrASTERISK ABOVE
yACCOUNT OF@8448jDDRESSED TO THE SUBJECTyDOUBLE-STRUCK CAPITAL CwEGREE CELSIUSoCENTRE LINE SYMBOL
rARE OFfDA UNAiEULER CONSTANToSCRUPLEhDEGREE FAHRENHEITrSCRIPT SMALL GhCAPITAL H
qBLACK-LETTER CAPITAL HwDOUBLE-STRUCK CAPITAL HxPLANCK CONSTANTa OVER TWO PIzcSCRIPT CAPITAL I
qBLACK-LETTER CAPITAL IwSCRIPT CAPITAL LjSMALL LoL B BAR SYMBOLoDOUBLE-STRUCK CAPITAL N
xNUMERO SIGNlSOUND RECORDING COPYRIGHTyCRIPT CAPITAL PqDOUBLE-STRUCK CAPITAL PbQxSCRIPT CAPITAL R
qBLACK-LETTER CAPITAL RwDOUBLE-STRUCK CAPITAL RxPRESCRIPTION TAKErRESPONSEiSERVICE MARK
mTELEPHONE SIGNnRADE MARK SIGNpVERSICLEiDOUBLE-STRUCK CAPITAL ZxOUNCE SIGNjHM SIGN
iINVERTED OHM SIGNrBLACK-LETTER CAPITAL ZwTURNED GREEK SMALL LETTER IOTAzfKELVIN SIGN
lANGSTROM SIGNnSCRIPT CAPITAL BqBLACK-LETTER CAPITAL CwESTIMATED SYMBOLqSCRIPT SMALL EhCAPITAL EbF
qTURNED CAPITAL FqSCRIPT CAPITAL MjSMALL OoALEF SYMBOLlBET SYMBOLkGIMEL SYMBOLmDALET SYMBOL
mINFORMATION SOURCEsROTATED CAPITAL QrFACSIMILE SIGNoDOUBLE-STRUCK SMALL PIcGAMMAlCAPITAL GAMMAfPI
kN-ARY SUMMATIONzeTURNED SANS-SERIF CAPITAL GbLzcREVERSED SANS-SERIF CAPITAL L
zeTURNED SANS-SERIF CAPITAL YzcDOUBLE-STRUCK ITALIC CAPITAL DjSMALL DbEbIbJzdPROPERTY LINE
nTURNED AMPERSANDqPER SIGNiAKTIESELSKABmTURNED SMALL FoSYMBOL FOR SAMARITAN SOURCE
zcVULGAR FRACTION ONE SEVENTHhNINTHfTENTHeHIRDjTWO THIRDSkONE FIFTHjTWO FIFTHSjHREE FIFTHS
mFOUR FIFTHSlONE SIXTHjFIVE SIXTHSlONE EIGHTHkTHREE EIGHTHSnFIVE EIGHTHSmSEVEN EIGHTHS
zeFRACTION NUMERATOR ONEwROMAN NUMERAL ONEdTWOcHREEfFOURdIVEeSIXcEVENfEIGHTfNINEeTENdELEVENgTWELVE
gFIFTYfONE HUNDREDlFIVE HUNDREDmONE THOUSANDzbSMALL ROMAN NUMERAL ONEdTWOcHREEfFOURdIVEeSIXcEVEN
fEIGHTfNINEeTENdELEVENgTWELVEgFIFTYfONE HUNDREDlFIVE HUNDREDmONE THOUSAND
zhROMAN NUMERAL ONE THOUSAND C DqFIVE THOUSANDnTEN THOUSANDmREVERSED ONE HUNDRED
zjLATIN SMALL LETTER REVERSED CzeROMAN NUMERAL SIX LATE FORMnFIFTY EARLY FORMkTHOUSAND
oONE HUNDRED THOUSANDzjVULGAR FRACTION ZERO THIRDSzcTURNED DIGIT TWOcHREEsLEFTWARDS ARROW@8592
pUPWARDS ARROWnRIGHTWARDS ARROWqDOWNWARDS ARROWpLEFT RIGHT ARROWqUP DOWN ARROWnNORTH WEST ARROW
kEAST ARROWqSOUTH EAST ARROWkWEST ARROWqLEFTWARDS ARROW WITH STROKEzcRIGHTWARDS ARROW WITH STROKE
zdLEFTWARDS WAVE ARROWuRIGHTWARDS WAVE ARROWvLEFTWARDS TWO HEADED ARROWzbUPWARDS TWO HEADED ARROW
yRIGHTWARDS TWO HEADED ARROWzcDOWNWARDS TWO HEADED ARROWzbLEFTWARDS ARROW WITH TAIL
zaRIGHTWARDS ARROW WITH TAILzbLEFTWARDS ARROW FROM BARyUPWARDS ARROW FROM BAR
wRIGHTWARDS ARROW FROM BARzaDOWNWARDS ARROW FROM BARyUP DOWN ARROW WITH BASE
xLEFTWARDS ARROW WITH HOOKzaRIGHTWARDS ARROW WITH HOOKzbLEFTWARDS ARROW WITH LOOP
zaRIGHTWARDS ARROW WITH LOOPzbLEFT RIGHT WAVE ARROWkARROW WITH STROKEzdDOWNWARDS ZIGZAG ARROW
wUPWARDS ARROW WITH TIP LEFTWARDSjRIGHTWARDSziDOWNWARDS ARROW WITH TIP LEFTWARDSjRIGHTWARDS
zkRIGHTWARDS ARROW WITH CORNER DOWNWARDSznDOWNWARDS ARROW WITH CORNER LEFTWARDS
zmANTICLOCKWISE TOP SEMICIRCLE ARROWzjCLOCKWISE TOP SEMICIRCLE ARROWzfNORTH WEST ARROW TO LONG BAR
zdLEFTWARDS ARROW TO BAR OVER RIGHTWARDS ARROW TO BARzzbANTICLOCKWISE OPEN CIRCLE ARROW
zgCLOCKWISE OPEN CIRCLE ARROWzcLEFTWARDS HARPOON WITH BARB UPWARDShDOWNWARDS
zmUPWARDS HARPOON WITH BARB RIGHTWARDSkLEFTWARDSzkRIGHTWARDS HARPOON WITH BARB UPWARDShDOWNWARDS
znDOWNWARDS HARPOON WITH BARB RIGHTWARDSkLEFTWARDSzmRIGHTWARDS ARROW OVER LEFTWARDS ARROW
zmUPWARDS ARROW LEFTWARDS OF DOWNWARDS ARROWzrLEFTWARDS ARROW OVER RIGHTWARDS ARROWzcPAIRED ARROWS
xUPWARDS PAIRED ARROWSvRIGHTWARDS PAIRED ARROWSyDOWNWARDS PAIRED ARROWS
xLEFTWARDS HARPOON OVER RIGHTWARDS HARPOONzqRIGHTWARDS HARPOON OVER LEFTWARDS HARPOON
zqLEFTWARDS DOUBLE ARROW WITH STROKEzf RIGHT DOUBLE ARROW WITH STROKE
zkRIGHTWARDS DOUBLE ARROW WITH STROKEzkLEFTWARDS DOUBLE ARROWwUPWARDS DOUBLE ARROW
uRIGHTWARDS DOUBLE ARROWxDOWNWARDS DOUBLE ARROWwLEFT RIGHT DOUBLE ARROWxUP DOWN DOUBLE ARROW
uNORTH WEST DOUBLE ARROWrEAST DOUBLE ARROWxSOUTH EAST DOUBLE ARROWrWEST DOUBLE ARROW
xLEFTWARDS TRIPLE ARROWwRIGHTWARDS TRIPLE ARROWxLEFTWARDS SQUIGGLE ARROWyRIGHTWARDS SQUIGGLE ARROW
zaUPWARDS ARROW WITH DOUBLE STROKEzhDOWNWARDS ARROW WITH DOUBLE STROKEzjLEFTWARDS DASHED ARROW
wUPWARDS DASHED ARROWuRIGHTWARDS DASHED ARROWxDOWNWARDS DASHED ARROWwLEFTWARDS ARROW TO BAR
wRIGHTWARDS ARROW TO BARxLEFTWARDS WHITE ARROWvUPWARDS WHITE ARROWtRIGHTWARDS WHITE ARROW
wDOWNWARDS WHITE ARROWvUPWARDS WHITE ARROW FROM BARiON PEDESTALa WITH HORIZONTAL BARoVERTICAL BAR
zkDOUBLE ARROWa ON PEDESTALznRIGHTWARDS WHITE ARROW FROM WALLzhNORTH WEST ARROW TO CORNER
zbSOUTH EAST ARROW TO CORNERzbUP DOWN WHITE ARROWtRIGHT ARROW WITH SMALL CIRCLE
zeDOWNWARDS ARROW LEFTWARDS OF UPWARDS ARROWzrTHREE RIGHTWARDS ARROWS
xLEFTWARDS ARROW WITH VERTICAL STROKEzlRIGHTWARDS ARROW WITH VERTICAL STROKE
zmLEFT RIGHT ARROW WITH VERTICAL STROKEziWARDS ARROW WITH DOUBLE VERTICAL STROKE
zsRIGHTWARDS ARROW WITH DOUBLE VERTICAL STROKEztLEFT RIGHT ARROW WITH DOUBLE VERTICAL STROKE
zpWARDS OPEN-HEADED ARROWzcRIGHTWARDS OPEN-HEADED ARROWzdLEFT RIGHT OPEN-HEADED ARROWzdFOR ALL
hCOMPLEMENTkPARTIAL DIFFERENTIALuTHERE EXISTSgDOES NOT EXISTuEMPTY SETjINCREMENTjNABLAfELEMENT OF
kNOT AN ELEMENT OFrSMALL ELEMENT OFqCONTAINS AS MEMBERsDOES NOT CONTAIN AS MEMBER
zbSMALL CONTAINS AS MEMBERyEND OF PROOFmN-ARY PRODUCThCOPRODUCTjSUMMATIONpMINUS SIGNf-OR-PLUS SIGN
sDOT PLUShIVISION SLASHoSET MINUSjASTERISK OPERATORrRING OPERATORnBULLET OPERATORpSQUARE ROOT
lCUBE ROOTjFOURTH ROOTlPROPORTIONAL TOpINFINITYiRIGHT ANGLElANGLEfMEASURED ANGLEoSPHERICAL ANGLE
pDIVIDESgOES NOT DIVIDEpPARALLEL TOlNOT PARALLEL TOpLOGICAL ANDdORkINTERSECTIONmUNIONfINTEGRAL
iDOUBLE INTEGRALpTRIPLE INTEGRALpCONTOUR INTEGRALqSURFACE INTEGRALqVOLUME INTEGRAL
pCLOCKWISE INTEGRALiCONTOUR INTEGRALzbANTICLOCKWISE CONTOUR INTEGRALzfTHEREFOREjBECAUSEhRATIO
fPROPORTIONkDOT MINUSjEXCESSgGEOMETRIC PROPORTIONuHOMOTHETICkTILDE OPERATORoREVERSED TILDE
oINVERTED LAZY SpSINE WAVEjWREATH PRODUCToNOT TILDEjMINUS TILDElASYMPTOTICALLY EQUAL TO
xNOT ASYMPTOTICALLY EQUAL TOzcAPPROXIMATELY EQUAL TOiBUT NOT ACTUALLY EQUAL TO
zoNEITHER APPROXIMATELY NOR ACTUALLY EQUAL TOzsALMOST EQUAL TOpNOT ALMOST EQUAL TO
tALMOST EQUAL OR EQUAL TOyTRIPLE TILDEmALL EQUAL TOmEQUIVALENT TOnGEOMETRICALLY EQUIVALENT TO
zcDIFFERENCE BETWEENsAPPROACHES THE LIMITuGEOMETRICALLY EQUAL TO
wAPPROXIMATELY EQUAL TO OR THE IMAGE OFznIMAGE OF OR APPROXIMATELY EQUAL TOzjCOLON EQUALS
mEQUALS COLONmRING IN EQUAL TOlEQUAL TOnCORRESPONDS TOoESTIMATESiQUIANGULAR TOoSTAR EQUALS
lDELTA EQUAL TOoEQUAL TO BY DEFINITIONwMEASURED BYlQUESTIONED EQUAL TOtNOT EQUAL TOmIDENTICAL TO
mNOT IDENTICAL TOqSTRICTLY EQUIVALENT TOwLESS-THAN OR EQUAL TOvGREATER-THAN OR EQUAL TO
yLESS-THAN OVER EQUAL TOxGREATER-THAN OVER EQUAL TOzbLESS-THAN BUT NOT EQUAL TO
zbGREATER-THAN BUT NOT EQUAL TOzeMUCH LESS-THANjGREATER-THANrBETWEENhNOT EQUIVALENT TOnLESS-THAN
jGREATER-THANpEITHER LESS-THAN NOR EQUAL TOwGREATER-THAN NOR EQUAL TOziLESS-THAN OR EQUIVALENT TO
zbGREATER-THAN OR EQUIVALENT TOzeNEITHER LESS-THAN NOR EQUIVALENT TO
zcGREATER-THAN NOR EQUIVALENT TOznLESS-THAN OR GREATER-THANzaGREATER-THAN OR LESS-THAN
zaNEITHER LESS-THAN NOR GREATER-THANzbGREATER-THAN NOR LESS-THANzjPRECEDESiSUCCEEDS
iPRECEDES OR EQUAL TOuSUCCEEDS OR EQUAL TOuPRECEDES OR EQUIVALENT TOzaSUCCEEDS OR EQUIVALENT TO
zaDOES NOT PRECEDEhSUCCEEDqSUBSET OFhPERSET OFlNOT A SUBSET OFhPERSET OFrSUBSET OF OR EQUAL TO
tPERSET OF OR EQUAL TOxNEITHER A SUBSET OF NOR EQUAL TOuPERSET OF NOR EQUAL TO
zjSUBSET OF WITH NOT EQUAL TOzaPERSET OF WITH NOT EQUAL TOzeMULTISETa MULTIPLICATIONoUNION
oSQUARE IMAGE OFiORIGINAL OFlIMAGE OF OR EQUAL TOuORIGINAL OF OR EQUAL TOxCAPcUPkCIRCLED PLUS
eMINUSfTIMESfDIVISION SLASHnOT OPERATORmRING OPERATORnASTERISK OPERATORrEQUALSgDASHmSQUARED PLUS
eMINUSfTIMESfDOT OPERATORuRIGHT TACKkLEFT TACKjDOWN TACKjUP TACKhASSERTIONjMODELSgTRUEeFORCES
gTRIPLE VERTICAL BAR RIGHT TURNSTILEzkDOUBLE VERTICAL BAR DOUBLE RIGHT TURNSTILEzpES NOT PROVE
oNOT TRUEiDOES NOT FORCEoNEGATED DOUBLE VERTICAL BAR DOUBLE RIGHT TURNSTILE
zzaPRECEDES UNDER RELATIONxSUCCEEDS UNDER RELATIONxNORMAL SUBGROUP OFsCONTAINS AS NORMAL SUBGROUP
zcNORMAL SUBGROUP OF OR EQUAL TOzfCONTAINS AS NORMAL SUBGROUP OR EQUAL TOzoORIGINAL OFlIMAGE OF
iMULTIMAPiHERMITIAN CONJUGATE MATRIXzbINTERCALATElXORdNANDdORdRIGHT ANGLE WITH ARCoTRIANGLE
oN-ARY LOGICAL ANDdORkINTERSECTIONmUNIONlDIAMOND OPERATORpOT OPERATORmSTAR OPERATORnDIVISION TIMES
oBOWTIEgLEFT NORMAL FACTOR SEMIDIRECT PRODUCTzmRIGHT NORMAL FACTOR SEMIDIRECT PRODUCT
znLEFT SEMIDIRECT PRODUCTxRIGHT SEMIDIRECT PRODUCTxEVERSED TILDE EQUALSvCURLY LOGICAL ORcAND
rDOUBLE SUBSETePERSETiINTERSECTIONmUNIONmPITCHFORKjEQUAL AND PARALLEL TOvLESS-THAN WITH DOT
sGREATER-THAN WITH DOTvVERY MUCH LESS-THANjGREATER-THANwLESS-THAN EQUAL TO OR GREATER-THAN
zjGREATER-THAN EQUAL TO OR LESS-THANzjEQUAL TO OR LESS-THANjGREATER-THANmPRECEDESiSUCCEEDS
uDOES NOT PRECEDE OR EQUALqSUCCEED OR EQUALzaNOT SQUARE IMAGE OF OR EQUAL TO
uORIGINAL OF OR EQUAL TOzjSQUARE IMAGE OF OR NOT EQUAL TOyORIGINAL OF OR NOT EQUAL TO
zjLESS-THAN BUT NOT EQUIVALENT TOzgGREATER-THAN BUT NOT EQUIVALENT TO
zjPRECEDES BUT NOT EQUIVALENT TOzfSUCCEEDS BUT NOT EQUIVALENT TOzfNOT NORMAL SUBGROUP OF
wDOES NOT CONTAIN AS NORMAL SUBGROUPzkNOT NORMAL SUBGROUP OF OR EQUAL TO
zjDOES NOT CONTAIN AS NORMAL SUBGROUP OR EQUALztVERTICAL ELLIPSISrMIDLINE HORIZONTAL ELLIPSIS
zcUP RIGHT DIAGONAL ELLIPSISzbDOWN RIGHT DIAGONAL ELLIPSISzdELEMENT OF WITH LONG HORIZONTAL STROKE
wVERTICAL BAR AT END OF HORIZONTAL STROKE
zzgSMALL ELEMENT OF WITH VERTICAL BAR AT END OF HORIZONTAL STROKEzzmELEMENT OF WITH DOT ABOVE
jOVERBARxSMALL ELEMENT OF WITH OVERBARzeELEMENT OF WITH UNDERBARiTWO HORIZONTAL STROKES
znCONTAINS WITH LONG HORIZONTAL STROKEwVERTICAL BAR AT END OF HORIZONTAL STROKE
zzeSMALL CONTAINS WITH VERTICAL BAR AT END OF HORIZONTAL STROKEzzkCONTAINS WITH OVERBAR
vSMALL CONTAINS WITH OVERBARzcZ NOTATION BAG MEMBERSHIPzaDIAMETER SIGNnELECTRIC ARROWoHOUSE
fUP ARROWHEADmDOWN ARROWHEADoPROJECTIVEjERSPECTIVElWAVY LINEjLEFT CEILINGmRIGHT CEILINGnLEFT FLOOR
kRIGHT FLOORlBOTTOM RIGHT CROPkLEFT CROPqTOP RIGHT CROPkLEFT CROPnREVERSED NOT SIGNrSQUARE LOZENGE
oARCdSEGMENTfCTORgTELEPHONE RECORDERsPOSITION INDICATORsVIEWDATA SQUAREpPLACE OF INTEREST SIGN
wTURNED NOT SIGNpWATCHfHOURGLASSjTOP LEFT CORNERlRIGHT CORNERqBOTTOM LEFT CORNERlRIGHT CORNER
tTOP HALF INTEGRALrBOTTOM HALF INTEGRALuFROWNfSMILEfUP ARROWHEAD BETWEEN TWO HORIZONTAL BARS
zpOPTION KEYkERASE TO THE RIGHTsX IN A RECTANGLE BOXuKEYBOARDiLEFT-POINTING ANGLE BRACKET
zcRIGHT-POINTING ANGLE BRACKETzdERASE TO THE LEFTrBENZENE RINGmCYLINDRICITYmALL AROUND-PROFILE
sSYMMETRYiTOTAL RUNOUTmDIMENSION ORIGINqCONICAL TAPERnSLOPEfCOUNTERBOREeSINK
lAPL FUNCTIONAL SYMBOL I-BEAMgSQUISH QUADlQUAD EQUALfDIVIDEeAMONDhJOTdCIRCLElCIRCLE STILEfJOT
kSLASH BARjBACKSLASH BARnQUAD SLASHfBACKSLASHjLESS-THANjGREATER-THANrLEFTWARDS VANE
oRIGHTWARDS VANEpQUAD LEFTWARDS ARROWpRIGHTWARDS ARROWvCIRCLE BACKSLASHqDOWN TACK UNDERBAR
rELTA STILElQUAD DOWN CARETjELTAkDOWN TACK JOTnUPWARDS VANEmQUAD UPWARDS ARROWsUP TACK OVERBAR
pDEL STILEjQUAD UP CARETiDELiUP TACK JOTlDOWNWARDS VANEoQUAD DOWNWARDS ARROWsOTE UNDERBAR
oDELTA UNDERBARnIAMOND UNDERBARqJOT UNDERBARmCIRCLE UNDERBARpUP SHOE JOTlQUOTE QUADkCIRCLE STAR
lQUAD COLONkUP TACK DIAERESISrDEL DIAERESISnSTAR DIAERESISoJOT DIAERESISnCIRCLE DIAERESIS
qDOWN SHOE STILEpLEFT SHOE STILEpTILDE DIAERESISpGREATER-THAN DIAERESISwCOMMA BARjDEL TILDEjZILDE
fSTILE TILDEkEMICOLON UNDERBARsQUAD NOT EQUALjQUESTIONnDOWN CARET TILDEqUP CARET TILDEoIOTAeRHO
dOMEGAfALPHA UNDERBARoEPSILON UNDERBARqIOTA UNDERBARnOMEGA UNDERBARoALPHAzcNOT CHECK MARK
oRIGHT ANGLE WITH DOWNWARDS ZIGZAG ARROWzoSHOULDERED OPEN BOXtBELL SYMBOL
lVERTICAL LINE WITH MIDDLE DOTzeINSERTION SYMBOLqCONTINUOUS UNDERLINE SYMBOL
zcDISCONTINUOUS UNDERLINE SYMBOLzfEMPHASIS SYMBOLpCOMPOSITION SYMBOL
sWHITE SQUARE WITH CENTRE VERTICAL LINEznENTER SYMBOLmALTERNATIVE KEY SYMBOLwHELM SYMBOL
lCIRCLED HORIZONTAL BAR WITH NOTCHzaTRIANGLE DOWNvBROKEN CIRCLE WITH NORTHWEST ARROWzjUNDO SYMBOL
lMONOSTABLE SYMBOLrHYSTERESIS SYMBOLrOPEN-CIRCUIT-OUTPUT H-TYPE SYMBOLnL-TYPE SYMBOL
ziPASSIVE-PULL-DOWN-OUTPUT SYMBOLsUP-OUTPUT SYMBOLzeDIRECT CURRENT SYMBOL FORM TWO
zfSOFTWARE-FUNCTION SYMBOLyAPL FUNCTIONAL SYMBOL QUADzbDECIMAL SEPARATOR KEY SYMBOLzdPREVIOUS PAGE
nNEXT PAGEjPRINT SCREEN SYMBOLtCLEAR SCREEN SYMBOLtLEFT PARENTHESIS UPPER HOOKkEXTENSION
jLOWER HOOKzcRIGHT PARENTHESIS UPPER HOOKkEXTENSIONjLOWER HOOKzdLEFT SQUARE BRACKET UPPER CORNER
mEXTENSIONjLOWER CORNERzhRIGHT SQUARE BRACKET UPPER CORNERmEXTENSIONjLOWER CORNER
ziLEFT CURLY BRACKET UPPER HOOKkMIDDLE PIECEmLOWER HOOKzeCURLY BRACKET EXTENSION
xRIGHT CURLY BRACKET UPPER HOOKkMIDDLE PIECEmLOWER HOOKzfINTEGRAL EXTENSION
sHORIZONTAL LINE EXTENSIONzaUPPER LEFT OR LOWER RIGHT CURLY BRACKET SECTION
zqRIGHT OR LOWER LEFT CURLY BRACKET SECTIONzwSUMMATION TOPdBOTTOMqTOP SQUARE BRACKET
sBOTTOM SQUARE BRACKETa OVER TOP SQUARE BRACKETzuRADICAL SYMBOL BOTTOMvLEFT VERTICAL BOX LINE
wRIGHT VERTICAL BOX LINExHORIZONTAL SCAN LINE-1b3b7b9
wDENTISTRY SYMBOL LIGHT VERTICAL AND TOP RIGHTjBOTTOM RIGHTqWITH CIRCLE
uDOWN AND HORIZONTAL WITH CIRCLEzgUP AND HORIZONTAL WITH CIRCLEzeVERTICAL WITH TRIANGLE
wDOWN AND HORIZONTAL WITH TRIANGLEziUP AND HORIZONTAL WITH TRIANGLEzgVERTICAL AND WAVE
rDOWN AND HORIZONTAL WITH WAVEzeUP AND HORIZONTAL WITH WAVEzcDOWN AND HORIZONTALtUP AND HORIZONTAL
rVERTICAL AND TOP LEFTiBOTTOM LEFTzwSQUARE FOOTlRETURN SYMBOLnEJECT SYMBOLmVERTICAL LINE EXTENSION
xMETRICAL BREVEfLONG OVER SHORTpSHORT OVER LONGpLONG OVER TWO SHORTSuTWO SHORTS OVER LONGjJOINED
qRISEMEgETRASEMEjPENTASEMEsEARTH GROUNDmFUSEeTOP PARENTHESISpBOTTOM PARENTHESISsTOP CURLY BRACKET
rBOTTOM CURLY BRACKETuTOP TORTOISE SHELL BRACKETzbBOTTOM TORTOISE SHELL BRACKETzeWHITE TRAPEZIUM
pBENZENE RING WITH CIRCLEySTRAIGHTNESSmFLATNESSiAC CURRENTkELECTRICAL INTERSECTION
xDECIMAL EXPONENT SYMBOLxBLACK RIGHT-POINTING DOUBLE TRIANGLEzfLEFT-POINTING DOUBLE TRIANGLE
zeUP-POINTING DOUBLE TRIANGLEzcDOWN-POINTING DOUBLE TRIANGLE
zeRIGHT-POINTING DOUBLE TRIANGLE WITH VERTICAL BAR
zxLEFT-POINTING DOUBLE TRIANGLE WITH VERTICAL BAR
zwRIGHT-POINTING TRIANGLE WITH DOUBLE VERTICAL BARzzeALARM CLOCKlSTOPWATCHjTIMER CLOCK
lHOURGLASS WITH FLOWING SANDzcBLACK MEDIUM LEFT-POINTING TRIANGLEwRIGHT-POINTING TRIANGLE
xUP-POINTING TRIANGLEuDOWN-POINTING TRIANGLEzkDOUBLE VERTICAL BARtBLACK SQUARE FOR STOP
pCIRCLE FOR RECORDxPOWER SYMBOLgON-OFF SYMBOLl SYMBOLjSLEEP SYMBOLsOBSERVER EYE SYMBOL
tSYMBOL FOR NULLeSTART OF HEADINGhTEXTnEND OF TEXTdRANSMISSIONrQUIRYhACKNOWLEDGElBELLdACKSPACE
jHORIZONTAL TABULATIONvLINE FEEDjVERTICAL TABULATIONtFORM FEEDjCARRIAGE RETURNpSHIFT OUTdIN
iDATA LINK ESCAPEpEVICE CONTROL ONEdTWOcHREEfFOURtNEGATIVE ACKNOWLEDGEuSYNCHRONOUS IDLE
qEND OF TRANSMISSION BLOCKzaCANCELgEND OF MEDIUMnSUBSTITUTEkESCAPEgFILE SEPARATORoGROUP SEPARATOR
pRECORD SEPARATORqUNIT SEPARATORoSPACEfDELETErBLANK SYMBOLmOPEN BOXiSYMBOL FOR NEWLINE
hDELETE FORM TWOpSUBSTITUTE FORM TWOzfOCR HOOK@9280eCHAIRfFORKeINVERTED FORKnBELT BUCKLEkOW TIE
gRANCH BANK IDENTIFICATIONzbAMOUNT OF CHECKpDASHeCUSTOMER ACCOUNT NUMBERxDOUBLE BACKSLASH
uCIRCLED DIGIT ONE@9312dTWOcHREEfFOURdIVEeSIXcEVENfEIGHTfNINEkNUMBER TENdELEVENgTWELVEfHIRTEEN
iFOURTEENhIFTEENhSIXTEENgEVENTEENjEIGHTEENiNINETEENiTWENTYvPARENTHESIZED DIGIT ONEdTWOcHREEfFOUR
dIVEeSIXcEVENfEIGHTfNINEkNUMBER TENdELEVENgTWELVEfHIRTEENiFOURTEENhIFTEENhSIXTEENgEVENTEEN
jEIGHTEENiNINETEENiTWENTYzcDIGIT ONE FULL STOPnTWO FULL STOPmHREE FULL STOPpFOUR FULL STOP
nIVE FULL STOPoSIX FULL STOPmEVEN FULL STOPpEIGHT FULL STOPpNINE FULL STOPuNUMBER TEN FULL STOP
nELEVEN FULL STOPqTWELVE FULL STOPpHIRTEEN FULL STOPsFOURTEEN FULL STOPrIFTEEN FULL STOP
rSIXTEEN FULL STOPqEVENTEEN FULL STOPtEIGHTEEN FULL STOPsNINETEEN FULL STOPsTWENTY FULL STOP
xPARENTHESIZED LATIN SMALL LETTER AbBbCbDbEbFbGbHbIbJbKbLbMbNbObPbQbRbSbTbUbVbWbXbYbZ
zjCIRCLED LATIN CAPITAL LETTER AbBbCbDbEbFbGbHbIbJbKbLbMbNbObPbQbRbSbTbUbVbWbXbYbZqSMALL LETTER A
bBbCbDbEbFbGbHbIbJbKbLbMbNbObPbQbRbSbTbUbVbWbXbYbZuDIGIT ZEROsNEGATIVE CIRCLED NUMBER ELEVEN
gTWELVEfHIRTEENiFOURTEENhIFTEENhSIXTEENgEVENTEENjEIGHTEENiNINETEENiTWENTY
zfDOUBLE CIRCLED DIGIT ONEdTWOcHREEfFOURdIVEeSIXcEVENfEIGHTfNINEkNUMBER TEN
zaNEGATIVE CIRCLED DIGIT ZEROzcBOX DRAWINGS LIGHT HORIZONTALqHEAVY HORIZONTALqLIGHT VERTICAL
oHEAVY VERTICALoLIGHT TRIPLE DASH HORIZONTALzdHEAVY TRIPLE DASH HORIZONTAL
zdLIGHT TRIPLE DASH VERTICALzbHEAVY TRIPLE DASH VERTICALzbLIGHT QUADRUPLE DASH HORIZONTAL
zgHEAVY QUADRUPLE DASH HORIZONTALzgLIGHT QUADRUPLE DASH VERTICALzeHEAVY QUADRUPLE DASH VERTICAL
zeLIGHT DOWN AND RIGHTuDOWN LIGHT AND RIGHT HEAVYvHEAVY AND RIGHT LIGHTzbHEAVY DOWN AND RIGHT
uLIGHT DOWN AND LEFTtDOWN LIGHT AND LEFT HEAVYuHEAVY AND LEFT LIGHTzaHEAVY DOWN AND LEFT
tLIGHT UP AND RIGHTsUP LIGHT AND RIGHT HEAVYvHEAVY AND RIGHT LIGHTyHEAVY UP AND RIGHT
sLIGHT UP AND LEFTrUP LIGHT AND LEFT HEAVYuHEAVY AND LEFT LIGHTxHEAVY UP AND LEFT
rLIGHT VERTICAL AND RIGHTyVERTICAL LIGHT AND RIGHT HEAVYzfUP HEAVY AND RIGHT DOWN LIGHT
zeDOWN HEAVY AND RIGHT UP LIGHTzeVERTICAL HEAVY AND RIGHT LIGHTzfDOWN LIGHT AND RIGHT UP HEAVY
zeUP LIGHT AND RIGHT DOWN HEAVYzeHEAVY VERTICAL AND RIGHTyLIGHT VERTICAL AND LEFT
xVERTICAL LIGHT AND LEFT HEAVYzeUP HEAVY AND LEFT DOWN LIGHTzdDOWN HEAVY AND LEFT UP LIGHT
zdVERTICAL HEAVY AND LEFT LIGHTzeDOWN LIGHT AND LEFT UP HEAVYzdUP LIGHT AND LEFT DOWN HEAVY
zdHEAVY VERTICAL AND LEFTxLIGHT DOWN AND HORIZONTALyEFT HEAVY AND RIGHT DOWN LIGHT
zgRIGHT HEAVY AND LEFT DOWN LIGHTzgDOWN LIGHT AND HORIZONTAL HEAVYzbHEAVY AND HORIZONTAL LIGHT
zgRIGHT LIGHT AND LEFT DOWN HEAVYzgLEFT LIGHT AND RIGHT DOWN HEAVYzgHEAVY DOWN AND HORIZONTAL
zaLIGHT UP AND HORIZONTALwEFT HEAVY AND RIGHT UP LIGHTzeRIGHT HEAVY AND LEFT UP LIGHT
zeUP LIGHT AND HORIZONTAL HEAVYzbHEAVY AND HORIZONTAL LIGHTzeRIGHT LIGHT AND LEFT UP HEAVY
zeLEFT LIGHT AND RIGHT UP HEAVYzeHEAVY UP AND HORIZONTALxLIGHT VERTICAL AND HORIZONTAL
zdEFT HEAVY AND RIGHT VERTICAL LIGHTzkRIGHT HEAVY AND LEFT VERTICAL LIGHT
zkVERTICAL LIGHT AND HORIZONTAL HEAVYzkUP HEAVY AND DOWN HORIZONTAL LIGHT
zjDOWN HEAVY AND UP HORIZONTAL LIGHTzjVERTICAL HEAVY AND HORIZONTAL LIGHT
zkLEFT UP HEAVY AND RIGHT DOWN LIGHTzjRIGHT UP HEAVY AND LEFT DOWN LIGHT
zjLEFT DOWN HEAVY AND RIGHT UP LIGHTzjRIGHT DOWN HEAVY AND LEFT UP LIGHT
zjDOWN LIGHT AND UP HORIZONTAL HEAVYzjUP LIGHT AND DOWN HORIZONTAL HEAVY
zjRIGHT LIGHT AND LEFT VERTICAL HEAVYzkLEFT LIGHT AND RIGHT VERTICAL HEAVY
zkHEAVY VERTICAL AND HORIZONTALzeLIGHT DOUBLE DASH HORIZONTALzdHEAVY DOUBLE DASH HORIZONTAL
zdLIGHT DOUBLE DASH VERTICALzbHEAVY DOUBLE DASH VERTICALzbDOUBLE HORIZONTALkVERTICAL
nWN SINGLE AND RIGHT DOUBLExDOUBLE AND RIGHT SINGLEzbUBLE DOWN AND RIGHTtWN SINGLE AND LEFT DOUBLE
wDOUBLE AND LEFT SINGLEzaUBLE DOWN AND LEFTuUP SINGLE AND RIGHT DOUBLExDOUBLE AND RIGHT SINGLE
zbDOUBLE UP AND RIGHTtUP SINGLE AND LEFT DOUBLEwDOUBLE AND LEFT SINGLEzaDOUBLE UP AND LEFT
sVERTICAL SINGLE AND RIGHT DOUBLExDOUBLE AND RIGHT SINGLEzhDOUBLE VERTICAL AND RIGHT
zaVERTICAL SINGLE AND LEFT DOUBLEwDOUBLE AND LEFT SINGLEzgDOUBLE VERTICAL AND LEFT
wWN SINGLE AND HORIZONTAL DOUBLEzdDOUBLE AND HORIZONTAL SINGLEzgUBLE DOWN AND HORIZONTAL
zbUP SINGLE AND HORIZONTAL DOUBLEzdDOUBLE AND HORIZONTAL SINGLEzgDOUBLE UP AND HORIZONTAL
yVERTICAL SINGLE AND HORIZONTAL DOUBLEzdDOUBLE AND HORIZONTAL SINGLE
zmDOUBLE VERTICAL AND HORIZONTALzfLIGHT ARC DOWN AND RIGHTfLEFTnUP AND LEFTeRIGHT
qDIAGONAL UPPER RIGHT TO LOWER LEFTtLEFT TO LOWER RIGHTzaCROSSoLEFTeUPcRIGHTfDOWNkHEAVY LEFTeUP
cRIGHTfDOWNkLIGHT LEFT AND HEAVY RIGHTuUP AND HEAVY DOWNxHEAVY LEFT AND LIGHT RIGHT
uUP AND LIGHT DOWNzlUPPER HALF BLOCKqLOWER ONE EIGHTH BLOCKmQUARTER BLOCKrTHREE EIGHTHS BLOCK
tHALF BLOCKkFIVE EIGHTHS BLOCKsTHREE QUARTERS BLOCKuSEVEN EIGHTHS BLOCKzaFULL BLOCK
kLEFT SEVEN EIGHTHS BLOCKtTHREE QUARTERS BLOCKuFIVE EIGHTHS BLOCKsHALF BLOCKkTHREE EIGHTHS BLOCK
tONE QUARTER BLOCKnEIGHTH BLOCKvRIGHT HALF BLOCKqLIGHT SHADElMEDIUM SHADEmDARK SHADE
kUPPER ONE EIGHTH BLOCKwRIGHT ONE EIGHTH BLOCKwQUADRANT LOWER LEFTeRIGHTlUPPER LEFT
a AND LOWER LEFT AND LOWER RIGHTuRIGHTlUPPER RIGHT AND LOWER LEFTeRIGHTzlRIGHTa AND LOWER LEFT
a AND LOWER RIGHTzzbBLACK SQUAREmWHITE SQUAREa WITH ROUNDED CORNERSuCONTAINING BLACK SMALL SQUARE
zrSQUARE WITH HORIZONTAL FILLpVERTICAL FILLnORTHOGONAL CROSSHATCH FILL
zbUPPER LEFT TO LOWER RIGHT FILLyRIGHT TO LOWER LEFT FILLzfDIAGONAL CROSSHATCH FILL
zlBLACK SMALL SQUAREsWHITE SMALL SQUAREsBLACK RECTANGLEpWHITE RECTANGLEpBLACK VERTICAL RECTANGLE
yWHITE VERTICAL RECTANGLEyBLACK PARALLELOGRAMtWHITE PARALLELOGRAMtBLACK UP-POINTING TRIANGLE
zbWHITE UP-POINTING TRIANGLEzbBLACK UP-POINTING SMALL TRIANGLEzhWHITE UP-POINTING SMALL TRIANGLE
zhBLACK RIGHT-POINTING TRIANGLEzeWHITE RIGHT-POINTING TRIANGLE
zeBLACK RIGHT-POINTING SMALL TRIANGLEzkWHITE RIGHT-POINTING SMALL TRIANGLE
zkBLACK RIGHT-POINTING POINTERzdWHITE RIGHT-POINTING POINTERzdBLACK DOWN-POINTING TRIANGLE
zdWHITE DOWN-POINTING TRIANGLEzdBLACK DOWN-POINTING SMALL TRIANGLE
zjWHITE DOWN-POINTING SMALL TRIANGLEzjBLACK LEFT-POINTING TRIANGLEzdWHITE LEFT-POINTING TRIANGLE
zdBLACK LEFT-POINTING SMALL TRIANGLEzjWHITE LEFT-POINTING SMALL TRIANGLE
zjBLACK LEFT-POINTING POINTERzcWHITE LEFT-POINTING POINTERzcBLACK DIAMONDnWHITE DIAMOND
a CONTAINING BLACK SMALL DIAMONDztFISHEYEhLOZENGEhWHITE CIRCLEmDOTTED CIRCLE
nCIRCLE WITH VERTICAL FILLzaBULLSEYEhLACK CIRCLEmCIRCLE WITH LEFT HALF BLACKpRIGHT HALF BLACK
qLOWER HALF BLACKqUPPER HALF BLACKkRIGHT QUADRANT BLACKzbALL BUT UPPER LEFT QUADRANT BLACK
zuLEFT HALF BLACK CIRCLEwRIGHT HALF BLACK CIRCLExINVERSE BULLETgWHITE CIRCLE
uUPPER HALF INVERSE WHITE CIRCLEzgLOWER HALF INVERSE WHITE CIRCLE
zgUPPER LEFT QUADRANT CIRCULAR ARCzbRIGHT QUADRANT CIRCULAR ARCziLOWER RIGHT QUADRANT CIRCULAR ARC
zcLEFT QUADRANT CIRCULAR ARCzhUPPER HALF CIRCLErLOWER HALF CIRCLErBLACK LOWER RIGHT TRIANGLE
oLEFT TRIANGLEtUPPER LEFT TRIANGLEnRIGHT TRIANGLEzbWHITE BULLETmSQUARE WITH LEFT HALF BLACK
pRIGHT HALF BLACKqUPPER LEFT DIAGONAL HALF BLACKzfLOWER RIGHT DIAGONAL HALF BLACK
zsWHITE SQUARE WITH VERTICAL BISECTING LINEzkUP-POINTING TRIANGLE WITH DOT
zkUP-POINTING TRIANGLE WITH LEFT HALF BLACKpRIGHT HALF BLACKzrLARGE CIRCLE
mWHITE SQUARE WITH UPPER LEFT QUADRANTtLOWER LEFT QUADRANTnRIGHT QUADRANTuUPPER RIGHT QUADRANT
zhCIRCLE WITH UPPER LEFT QUADRANTtLOWER LEFT QUADRANTnRIGHT QUADRANTuUPPER RIGHT QUADRANT
znUPPER LEFT TRIANGLEnRIGHT TRIANGLEuLOWER LEFT TRIANGLEtWHITE MEDIUM SQUAREtBLACK MEDIUM SQUARE
tWHITE MEDIUM SMALL SQUAREzaBLACK MEDIUM SMALL SQUAREzaLOWER RIGHT TRIANGLEuBLACK SUN WITH RAYS
tCLOUDfUMBRELLAiSNOWMANhCOMETfBLACK STARkWHITE STARkLIGHTNINGjTHUNDERSTORMmSUNdASCENDING NODE
oDESCENDING NODEpCONJUNCTIONlOPPOSITIONkBLACK TELEPHONEpWHITE TELEPHONEpBALLOT BOXa WITH CHECKfX
rSALTIREhUMBRELLA WITH RAIN DROPSyHOT BEVERAGEmWHITE SHOGI PIECErBLACK SHOGI PIECErSHAMROCK
iREVERSED ROTATED FLORAL HEART BULLETzlBLACK LEFT POINTING INDEXtRIGHT POINTING INDEX
zbWHITE LEFT POINTING INDEXtUP POINTING INDEXrRIGHT POINTING INDEXuDOWN POINTING INDEX
zaSKULL AND CROSSBONESuCAUTION SIGNmRADIOACTIVE SIGNqBIOHAZARD SIGNoCADUCEUSiANKHeORTHODOX CROSS
oCHI RHOgROSS OF LORRAINEiJERUSALEMsSTAR AND CRESCENTrFARSI SYMBOLmADI SHAKTIkHAMMER AND SICKLE
rPEACE SYMBOLmYIN YANGiTRIGRAM FOR HEAVENgLAKEeFIREeTHUNDERhWINDdATERfMOUNTAINiEARTH
rWHEEL OF DHARMAnITE FROWNING FACEnSMILING FACEsBLACK SMILING FACEsWHITE SUN WITH RAYS
tFIRST QUARTER MOONsLAST QUARTER MOONrMERCURYhFEMALE SIGNlEARTHfMALE SIGNjJUPITERhSATURNgURANUS
gNEPTUNEhPLUTOfARIESfTAURUSgGEMINIgCANCERgLEOdVIRGOfLIBRAfSCORPIUShAGITTARIUSlCAPRICORNjAQUARIUS
iPISCESgWHITE CHESS KINGeQUEENfROOKeBISHOPgKNIGHTgPAWNqBLACK CHESS KINGeQUEENfROOKeBISHOPgKNIGHT
gPAWNkSPADE SUITqWHITE HEART SUITkDIAMOND SUITsBLACK CLUB SUITpWHITE SPADE SUITqBLACK HEART SUIT
kDIAMOND SUITsWHITE CLUB SUITpHOT SPRINGSlQUARTER NOTEmEIGHTH NOTElBEAMED EIGHTH NOTES
mSIXTEENTH NOTESwMUSIC FLAT SIGNjNATURAL SIGNmSHARP SIGNqWEST SYRIAC CROSSrEAST SYRIAC CROSS
rUNIVERSAL RECYCLING SYMBOLzbRECYCLING SYMBOL FOR TYPE-1 PLASTICSk2 PLASTICSk3 PLASTICSk4 PLASTICS
k5 PLASTICSk6 PLASTICSk7 PLASTICSpGENERIC MATERIALSznBLACK UNIVERSAL RECYCLING SYMBOL
zhRECYCLED PAPER SYMBOLvPARTIALLY-RECYCLED PAPER SYMBOLzfERMANENT PAPER SIGNuWHEELCHAIR SYMBOL
rDIE FACE-1b2b3b4b5b6kWHITE CIRCLE WITH DOT RIGHTjTWO DOTSzbBLACK CIRCLE WITH WHITE DOT RIGHT
pTWO WHITE DOTSzhMONOGRAM FOR YANGdINqDIGRAM FOR GREATER YANGmLESSER YINcANGlGREATER YIN
wWHITE FLAGkBLACK FLAGkHAMMER AND PICKpANCHORgCROSSED SWORDSoSTAFF OF AESCULAPIUStCALESgALEMBIC
hFLOWERgGEAReSTAFF OF HERMESpATOM SYMBOLlFLEUR-DE-LISmOUTLINED WHITE STAR
tTHREE LINES CONVERGING RIGHTfLEFTzcWARNING SIGNmHIGH VOLTAGE SIGNrDOUBLED FEMALE SIGNlMALE SIGN
rINTERLOCKED FEMALE AND MALE SIGNzhMALE AND FEMALE SIGNpWITH STROKE SIGNeAND MALE AND FEMALE SIGN
zqVERTICAL MALE WITH STROKE SIGNzfHORIZONTAL MALE WITH STROKE SIGNzhMEDIUM WHITE CIRCLE
mBLACK CIRCLEmSMALL WHITE CIRCLEyARRIAGE SYMBOLpDIVORCE SYMBOLoUNMARRIED PARTNERSHIP SYMBOL
zdCOFFINgFUNERAL URNlNEUTERgCERESfPALLASgJUNOeVESTAfCHIRONgBLACK MOON LILITHrSEXTILEfMISEXTILE
lQUINCUNXiSESQUIQUADRATEnOCCER BALLlBASEBALLiSQUARED KEYlWHITE DRAUGHTS MANdKING
tBLACK DRAUGHTS MANdKINGtSNOWMAN WITHOUT SNOWtUN BEHIND CLOUDqRAINeBLACK SNOWMAN
nTHUNDER CLOUD AND RAINvURNED WHITE SHOGI PIECErBLACK SHOGI PIECEyWHITE DIAMOND IN SQUARE
xCROSSING LANESoDISABLED CARmOPHIUCHUSjPICKeCAR SLIDINGlHELMET WITH WHITE CROSS
xCIRCLED CROSSING LANESvHAINSgNO ENTRYiALTERNATE ONE-WAY LEFT WAY TRAFFIC
zjBLACK TWO-WAY LEFT WAY TRAFFICzfWHITE TWO-WAY LEFT WAY TRAFFICzfBLACK LEFT LANE MERGE
vWHITE LEFT LANE MERGEvDRIVE SLOW SIGNpHEAVY WHITE DOWN-POINTING TRIANGLEzjLEFT CLOSED ENTRY
rSQUARED SALTIREpFALLING DIAGONAL IN WHITE CIRCLE IN BLACK SQUAREzxBLACK TRUCK
lRESTRICTED LEFT ENTRY-1b2xASTRONOMICAL SYMBOL FOR URANUS
zfHEAVY CIRCLE WITH STROKE AND TWO DOTS ABOVEzsPENTAGRAMjRIGHT-HANDED INTERLACED PENTAGRAM
ziLEFT-HANDED INTERLACED PENTAGRAMzhINVERTED PENTAGRAMsBLACK CROSS ON SHIELDvSHINTO SHRINEnCHURCH
fASTLEgHISTORIC SITEnGEAR WITHOUT HUBh HANDLESrMAP SYMBOL FOR LIGHTHOUSEyOUNTAIN
iUMBRELLA ON GROUNDsFOUNTAINhLAG IN HOLElERRYfSAILBOAThQUARE FOUR CORNERSsKIERfICE SKATE
jPERSON WITH BALLqTENTeJAPANESE BANK SYMBOLuHEADSTONE GRAVEYARD SYMBOLzbFUEL PUMP
jCUP ON BLACK SQUAREtWHITE FLAG WITH HORIZONTAL MIDDLE BLACK STRIPEzvBLACK SAFETY SCISSORS
vUPPER BLADE SCISSORSuBLACK SCISSORSoLOWER BLADE SCISSORSuWHITE SCISSORSiHEAVY CHECK MARK
wTELEPHONE LOCATION SIGNwAPE DRIVEkAIRPLANEiENVELOPEiRAISED FISTeHANDlVICTORY HANDmWRITING HAND
mLOWER RIGHT PENCILsPENCILgUPPER RIGHT PENCILsWHITE NIBjBLACK NIBjCHECK MARKkHEAVY CHECK MARK
qMULTIPLICATION XqHEAVY MULTIPLICATION XwBALLOT XiHEAVY BALLOT XoOUTLINED GREEK CROSS
uHEAVY GREEK CROSSrOPEN CENTRE CROSSrHEAVY OPEN CENTRE CROSSxLATIN CROSS
lSHADOWED WHITE LATIN CROSSzbOUTLINED LATIN CROSSuMALTESE CROSSnSTAR OF DAVID
nFOUR TEARDROP-SPOKED ASTERISKyBALLOON-SPOKED ASTERISKzdHEAVY FOUR BALLOON-SPOKED ASTERISK
zjFOUR CLUB-SPOKED ASTERISKzaBLACK FOUR POINTED STARxWHITE FOUR POINTED STARxSPARKLES
hTRESS OUTLINED WHITE STARzbCIRCLED WHITE STARsOPEN CENTRE BLACK STARwBLACK CENTRE WHITE STAR
xOUTLINED BLACK STARtHEAVY OUTLINED BLACK STARzaPINWHEEL STARnSHADOWED WHITE STARtHEAVY ASTERISK
oOPEN CENTRE ASTERISKuEIGHT SPOKED ASTERISKpPOINTED BLACK STARkPINWHEEL STAR
zcSIX POINTED BLACK STARwEIGHT POINTED RECTILINEAR BLACK STAR
zlHEAVY EIGHT POINTED RECTILINEAR BLACK STARzrTWELVE POINTED BLACK STARzaSIXTEEN POINTED ASTERISK
yTEARDROP-SPOKED ASTERISKyOPEN CENTRE TEARDROP-SPOKED ASTERISKzlHEAVY TEARDROP-SPOKED ASTERISK
zfSIX PETALLED BLACK AND WHITE FLORETTEzmBLACK FLORETTEoWHITE FLORETTE
oEIGHT PETALLED OUTLINED BLACK FLORETTEznCIRCLED OPEN CENTRE EIGHT POINTED STAR
znHEAVY TEARDROP-SPOKED PINWHEEL ASTERISKzoSNOWFLAKEjTIGHT TRIFOLIATE SNOWFLAKE
zbHEAVY CHEVRON SNOWFLAKExSPARKLEhHEAVY SPARKLEnBALLOON-SPOKED ASTERISK
xEIGHT TEARDROP-SPOKED PROPELLER ASTERISKzpHEAVY EIGHT TEARDROP-SPOKED PROPELLER ASTERISK
zvCROSS MARKkSHADOWED WHITE CIRCLEvNEGATIVE SQUARED CROSS MARK
zcLOWER RIGHT DROP-SHADOWED WHITE SQUAREznUPPER RIGHT DROP-SHADOWED WHITE SQUARE
znLOWER RIGHT SHADOWED WHITE SQUAREziUPPER RIGHT SHADOWED WHITE SQUARE
ziBLACK QUESTION MARK ORNAMENTzdWHITE QUESTION MARK ORNAMENTwEXCLAMATION MARK ORNAMENT
zgBLACK DIAMOND MINUS WHITE XzcHEAVY EXCLAMATION MARK SYMBOLzeLIGHT VERTICAL BAR
sMEDIUM VERTICAL BARtHEAVY VERTICAL BARmSINGLE TURNED COMMA QUOTATION MARK ORNAMENT
zlCOMMA QUOTATION MARK ORNAMENTzlDOUBLE TURNED COMMA QUOTATION MARK ORNAMENT
zlCOMMA QUOTATION MARK ORNAMENTzlLOW SINGLE COMMA QUOTATION MARK ORNAMENT
zlDOUBLE COMMA QUOTATION MARK ORNAMENTzvCURVED STEM PARAGRAPH SIGN ORNAMENT
zkHEAVY EXCLAMATION MARK ORNAMENTzaHEART EXCLAMATION MARK ORNAMENTzgBLACK HEART
rROTATED HEAVY BLACK HEART BULLETzhFLORAL HEARTmROTATED FLORAL HEART BULLET
zcMEDIUM LEFT PARENTHESIS ORNAMENTzaRIGHT PARENTHESIS ORNAMENT
zbFLATTENED LEFT PARENTHESIS ORNAMENTzaRIGHT PARENTHESIS ORNAMENT
zlLEFT-POINTING ANGLE BRACKET ORNAMENTzlRIGHT-POINTING ANGLE BRACKET ORNAMENT
ztHEAVY LEFT-POINTING ANGLE QUOTATION MARK ORNAMENTzsRIGHT-POINTING ANGLE QUOTATION MARK ORNAMENT
ztLEFT-POINTING ANGLE BRACKET ORNAMENTzlRIGHT-POINTING ANGLE BRACKET ORNAMENT
zsLIGHT LEFT TORTOISE SHELL BRACKET ORNAMENTzlRIGHT TORTOISE SHELL BRACKET ORNAMENT
zsMEDIUM LEFT CURLY BRACKET ORNAMENTzcRIGHT CURLY BRACKET ORNAMENT
zkDINGBAT NEGATIVE CIRCLED DIGIT ONEdTWOcHREEfFOURdIVEeSIXcEVENfEIGHTfNINEkNUMBER TEN
zcCIRCLED SANS-SERIF DIGIT ONEdTWOcHREEfFOURdIVEeSIXcEVENfEIGHTfNINEkNUMBER TEN
zeNEGATIVE CIRCLED SANS-SERIF DIGIT ONEdTWOcHREEfFOURdIVEeSIXcEVENfEIGHTfNINEkNUMBER TEN
zvHEAVY WIDE-HEADED RIGHTWARDS ARROWzdPLUS SIGNjMINUS SIGNkDIVISION SIGNnSOUTH EAST ARROW
qRIGHTWARDS ARROWqNORTH EAST ARROWwDRAFTING POINT RIGHTWARDS ARROW
zgHEAVY ROUND-TIPPED RIGHTWARDS ARROWzkTRIANGLE-HEADED RIGHTWARDS ARROW
zhHEAVY TRIANGLE-HEADED RIGHTWARDS ARROWznDASHED TRIANGLE-HEADED RIGHTWARDS ARROW
zoHEAVY DASHED TRIANGLE-HEADED RIGHTWARDS ARROWzuBLACK RIGHTWARDS ARROW
wTHREE-D TOP-LIGHTED RIGHTWARDS ARROWHEADzhBOTTOM-LIGHTED RIGHTWARDS ARROWHEAD
zsBLACK RIGHTWARDS ARROWHEADzbHEAVY BLACK CURVED DOWNWARDS AND RIGHTWARDS ARROW
zfUPWARDS AND RIGHTWARDS ARROWzwSQUAT BLACK RIGHTWARDS ARROW
zdHEAVY CONCAVE-POINTED BLACK RIGHTWARDS ARROWztRIGHT-SHADED WHITE RIGHTWARDS ARROW
zkLEFT-SHADED WHITE RIGHTWARDS ARROWzjBACK-TILTED SHADOWED WHITE RIGHTWARDS ARROW
zsFRONT-TILTED SHADOWED WHITE RIGHTWARDS ARROWztHEAVY LOWER RIGHT-SHADOWED WHITE RIGHTWARDS ARROW
zsUPPER RIGHT-SHADOWED WHITE RIGHTWARDS ARROWzyNOTCHED LOWER RIGHT-SHADOWED WHITE RIGHTWARDS ARROW
zzbCURLY LOOPkNOTCHED UPPER RIGHT-SHADOWED WHITE RIGHTWARDS ARROW
zzbCIRCLED HEAVY WHITE RIGHTWARDS ARROWzlWHITE-FEATHERED RIGHTWARDS ARROW
zhBLACK-FEATHERED SOUTH EAST ARROWqRIGHTWARDS ARROWqNORTH EAST ARROW
zhHEAVY BLACK-FEATHERED SOUTH EAST ARROWqRIGHTWARDS ARROWqNORTH EAST ARROW
znTEARDROP-BARBED RIGHTWARDS ARROWzhHEAVY TEARDROP-SHANKED RIGHTWARDS ARROW
zoWEDGE-TAILED RIGHTWARDS ARROWzeHEAVY WEDGE-TAILED RIGHTWARDS ARROW
zkOPEN-OUTLINED RIGHTWARDS ARROWzfDOUBLE CURLY LOOPrTHREE DIMENSIONAL ANGLE
xWHITE TRIANGLE CONTAINING SMALL WHITE TRIANGLEzvPERPENDICULARnOPEN SUBSETePERSET
nLEFT S-SHAPED BAG DELIMITERzcRIGHT S-SHAPED BAG DELIMITERzdOR WITH DOT INSIDE
sREVERSE SOLIDUS PRECEDING SUBSETzhSUPERSET PRECEDING SOLIDUSzbVERTICAL BAR WITH HORIZONTAL STROKE
zkMATHEMATICAL RISING DIAGONALzdLONG DIVISIONnMATHEMATICAL FALLING DIAGONALzeSQUARED LOGICAL AND
dORsWHITE DIAMOND WITH CENTRED DOTzfAND WITH DOTmELEMENT OF OPENING UPWARDS
zbLOWER RIGHT CORNER WITH DOTzcUPPER LEFT CORNER WITH DOTzbLEFT OUTER JOINpRIGHT OUTER JOIN
qFULL OUTER JOINpLARGE UP TACKhDOWN TACKoEFT AND RIGHT DOUBLE TURNSTILEqTACKoMULTIMAP
mONG RIGHT TACKkLEFT TACKoUP TACK WITH CIRCLE ABOVEzaLOZENGE DIVIDED BY HORIZONTAL RULE
zjWHITE CONCAVE-SIDED DIAMONDa WITH LEFTWARDS TICKoRIGHTWARDS TICKzrSQUARE WITH LEFTWARDS TICK
oRIGHTWARDS TICKziMATHEMATICAL LEFT WHITE SQUARE BRACKETzaRIGHT WHITE SQUARE BRACKET
zbLEFT ANGLE BRACKETsRIGHT ANGLE BRACKETtLEFT DOUBLE ANGLE BRACKETzaRIGHT DOUBLE ANGLE BRACKET
zbLEFT WHITE TORTOISE SHELL BRACKETziRIGHT WHITE TORTOISE SHELL BRACKET
zjLEFT FLATTENED PARENTHESISzbRIGHT FLATTENED PARENTHESISzpUPWARDS QUADRUPLE ARROW
xDOWNWARDS QUADRUPLE ARROWzaANTICLOCKWISE GAPPED CIRCLE ARROWziCLOCKWISE GAPPED CIRCLE ARROW
zeRIGHT ARROW WITH CIRCLED PLUSzeLONG LEFTWARDS ARROWpRIGHTWARDS ARROWqLEFT RIGHT ARROW
mWARDS DOUBLE ARROWwRIGHTWARDS DOUBLE ARROWxLEFT RIGHT DOUBLE ARROWtWARDS ARROW FROM BAR
yRIGHTWARDS ARROW FROM BARzaLEFTWARDS DOUBLE ARROW FROM BARzgRIGHTWARDS DOUBLE ARROW FROM BAR
vSQUIGGLE ARROWzfBRAILLE PATTERN BLANKfDOTS-1b2b12c3b13c23c123d4b14c24c124d34c134d234d1234e5b15c25
c125d35c135d235d1235e45c145d245d1245e345d1345e2345e12345f6b16c26c126d36c136d236d1236e46c146d246
d1246e346d1346e2346e12346f56c156d256d1256e356d1356e2356e12356f456d1456e2456e12456f3456e13456f23456
f123456g7b17c27c127d37c137d237d1237e47c147d247d1247e347d1347e2347e12347f57c157d257d1257e357d1357
e2357e12357f457d1457e2457e12457f3457e13457f23457f123457g67c167d267d1267e367d1367e2367e12367f467
d1467e2467e12467f3467e13467f23467f123467g567d1567e2567e12567f3567e13567f23567f123567g4567e14567
f24567f124567g34567f134567g234567g1234567h8b18c28c128d38c138d238d1238e48c148d248d1248e348d1348
e2348e12348f58c158d258d1258e358d1358e2358e12358f458d1458e2458e12458f3458e13458f23458f123458g68c168
d268d1268e368d1368e2368e12368f468d1468e2468e12468f3468e13468f23468f123468g568d1568e2568e12568f3568
e13568f23568f123568g4568e14568f24568f124568g34568f134568g234568g1234568h78c178d278d1278e378d1378
e2378e12378f478d1478e2478e12478f3478e13478f23478f123478g578d1578e2578e12578f3578e13578f23578
f123578g4578e14578f24578f124578g34578f134578g234578g1234578h678d1678e2678e12678f3678e13678f23678
f123678g4678e14678f24678f124678g34678f134678g234678g1234678h5678e15678f25678f125678g35678f135678
g235678g1235678h45678f145678g245678g1245678h345678g1345678h2345678h12345678
zeRIGHTWARDS TWO-HEADED ARROW WITH VERTICAL STROKEpDOUBLE VERTICAL STROKE
zzfLEFTWARDS DOUBLE ARROW WITH VERTICAL STROKEzsRIGHTWARDS DOUBLE ARROW WITH VERTICAL STROKE
ztLEFT RIGHT DOUBLE ARROW WITH VERTICAL STROKEztRIGHTWARDS TWO-HEADED ARROW FROM BAR
zlLEFTWARDS DOUBLE ARROW FROM BARzgRIGHTWARDS DOUBLE ARROW FROM BAR
zhDOWNWARDS ARROW WITH HORIZONTAL STROKEznUPWARDS ARROW WITH HORIZONTAL STROKEzdTRIPLE ARROW
uDOWNWARDS TRIPLE ARROWwLEFTWARDS DOUBLE DASH ARROWzcRIGHTWARDS DOUBLE DASH ARROW
zdLEFTWARDS TRIPLE DASH ARROWzcRIGHTWARDS TRIPLE DASH ARROWqWO-HEADED TRIPLE DASH ARROW
zdARROW WITH DOTTED STEMziUPWARDS ARROW TO BARuDOWNWARDS ARROW TO BAR
wRIGHTWARDS ARROW WITH TAIL WITH VERTICAL STROKEpDOUBLE VERTICAL STROKE
zsTWO-HEADED ARROW WITH TAILa WITH VERTICAL STROKEpDOUBLE VERTICAL STROKEzzpLEFTWARDS ARROW-TAIL
uRIGHTWARDS ARROW-TAILvLEFTWARDS DOUBLE ARROW-TAILzcRIGHTWARDS DOUBLE ARROW-TAIL
zdLEFTWARDS ARROW TO BLACK DIAMONDzhRIGHTWARDS ARROW TO BLACK DIAMOND
ziLEFTWARDS ARROW FROM BAR TO BLACK DIAMONDzqRIGHTWARDS ARROW FROM BAR TO BLACK DIAMOND
zrNORTH WEST AND SOUTH EAST ARROWzaEAST AND SOUTH WEST ARROWzaWEST ARROW WITH HOOK
uEAST ARROW WITH HOOKzbSOUTH EAST ARROW WITH HOOKuWEST ARROW WITH HOOK
zbNORTH WEST ARROW AND NORTH EAST ARROWzgEAST ARROW AND SOUTH EAST ARROW
zmSOUTH EAST ARROW AND SOUTH WEST ARROWzgWEST ARROW AND NORTH WEST ARROW
zmRISING DIAGONAL CROSSING FALLING DIAGONALzqFALLING DIAGONAL CROSSING RISING DIAGONAL
zqSOUTH EAST ARROW CROSSING NORTH EAST ARROWzrNORTH EAST ARROW CROSSING SOUTH EAST ARROW
zrFALLING DIAGONAL CROSSING NORTH EAST ARROWzrRISING DIAGONAL CROSSING SOUTH EAST ARROW
zqNORTH EAST ARROW CROSSING NORTH WEST ARROWzlWEST ARROW CROSSING NORTH EAST ARROW
zrWAVE ARROW POINTING DIRECTLY RIGHTzjARROW POINTING RIGHTWARDS THEN CURVING UPWARDShDOWNWARDS
ziDOWNWARDS THEN CURVING LEFTWARDSjRIGHTWARDSzxRIGHT-SIDE ARC CLOCKWISE ARROW
zfLEFT-SIDE ARC ANTICLOCKWISE ARROWziTOP ARC ANTICLOCKWISE ARROWzcBOTTOM ARC ANTICLOCKWISE ARROW
zfTOP ARC CLOCKWISE ARROW WITH MINUSzbANTICLOCKWISE ARROW WITH PLUS
zmLOWER RIGHT SEMICIRCULAR CLOCKWISE ARROWzjLEFT SEMICIRCULAR ANTICLOCKWISE ARROW
zsANTICLOCKWISE CLOSED CIRCLE ARROWziCLOCKWISE CLOSED CIRCLE ARROW
zeRIGHTWARDS ARROW ABOVE SHORT LEFTWARDS ARROWztLEFTWARDS ARROW ABOVE SHORT RIGHTWARDS ARROW
ztSHORT RIGHTWARDS ARROW ABOVE LEFTWARDS ARROWztRIGHTWARDS ARROW WITH PLUS BELOW
zhLEFTWARDS ARROW WITH PLUS BELOWzgRIGHTWARDS ARROW THROUGH X
zbLEFT RIGHT ARROW THROUGH SMALL CIRCLEzmUPWARDS TWO-HEADED ARROW FROM SMALL CIRCLE
zrLEFT BARB UP RIGHT BARB DOWN HARPOONzbDOWN RIGHT BARB UP HARPOON
zlUP BARB RIGHT DOWN BARB LEFT HARPOONzdLEFT DOWN BARB RIGHT HARPOON
zlLEFT BARB UP RIGHT BARB UP HARPOONzjUP BARB RIGHT DOWN BARB RIGHT HARPOON
zmLEFT BARB DOWN RIGHT BARB DOWN HARPOONznUP BARB LEFT DOWN BARB LEFT HARPOON
zkLEFTWARDS HARPOON WITH BARB UP TO BARzmRIGHTWARDS HARPOON WITH BARB UP TO BAR
znUPWARDS HARPOON WITH BARB RIGHT TO BARznDOWNWARDS HARPOON WITH BARB RIGHT TO BAR
zpLEFTWARDS HARPOON WITH BARB DOWN TO BARzoRIGHTWARDS HARPOON WITH BARB DOWN TO BAR
zpUPWARDS HARPOON WITH BARB LEFT TO BARzmDOWNWARDS HARPOON WITH BARB LEFT TO BAR
zoLEFTWARDS HARPOON WITH BARB UP FROM BARzoRIGHTWARDS HARPOON WITH BARB UP FROM BAR
zpUPWARDS HARPOON WITH BARB RIGHT FROM BARzpDOWNWARDS HARPOON WITH BARB RIGHT FROM BAR
zrLEFTWARDS HARPOON WITH BARB DOWN FROM BARzqRIGHTWARDS HARPOON WITH BARB DOWN FROM BAR
zrUPWARDS HARPOON WITH BARB LEFT FROM BARzoDOWNWARDS HARPOON WITH BARB LEFT FROM BAR
zqLEFTWARDS HARPOON WITH BARB UP ABOVE LEFTWARDS HARPOON WITH BARB DOWN
zztUPWARDS HARPOON WITH BARB LEFT BESIDE UPWARDS HARPOON WITH BARB RIGHT
zztRIGHTWARDS HARPOON WITH BARB UP ABOVE RIGHTWARDS HARPOON WITH BARB DOWN
zzvDOWNWARDS HARPOON WITH BARB LEFT BESIDE DOWNWARDS HARPOON WITH BARB RIGHT
zzxLEFTWARDS HARPOON WITH BARB UP ABOVE RIGHTWARDS HARPOON WITH BARB UP
zpDOWN ABOVE RIGHTWARDS HARPOON WITH BARB DOWN
zzwRIGHTWARDS HARPOON WITH BARB UP ABOVE LEFTWARDS HARPOON WITH BARB UP
zoDOWN ABOVE LEFTWARDS HARPOON WITH BARB DOWNzzwLEFTWARDS HARPOON WITH BARB UP ABOVE LONG DASH
sDOWN BELOW LONG DASHzxRIGHTWARDS HARPOON WITH BARB UP ABOVE LONG DASHsDOWN BELOW LONG DASH
zyUPWARDS HARPOON WITH BARB LEFT BESIDE DOWNWARDS HARPOON WITH BARB RIGHT
zzvDOWNWARDS HARPOON WITH BARB LEFT BESIDE UPWARDS HARPOON WITH BARB RIGHT
zzvRIGHT DOUBLE ARROW WITH ROUNDED HEADzlEQUALS SIGN ABOVE RIGHTWARDS ARROW
zjTILDE OPERATOR ABOVE RIGHTWARDS ARROWzmLEFTWARDS ARROW ABOVE TILDE OPERATOR
zlRIGHTWARDS ARROW ABOVE TILDE OPERATORoALMOST EQUAL TOznLESS-THAN ABOVE LEFTWARDS ARROW
zeFTWARDS ARROW THROUGH LESS-THANziGREATER-THAN ABOVE RIGHTWARDS ARROW
zkSUBSET ABOVE RIGHTWARDS ARROWzeLEFTWARDS ARROW THROUGH SUBSETzfSUPERSET ABOVE LEFTWARDS ARROW
zfLEFT FISH TAILoRIGHT FISH TAILpUP FISH TAILmDOWN FISH TAILoTRIPLE VERTICAL BAR DELIMITER
zeZ NOTATION SPOTeTYPE COLONvLEFT WHITE CURLY BRACKETyRIGHT WHITE CURLY BRACKET
zaLEFT WHITE PARENTHESISwRIGHT WHITE PARENTHESISxZ NOTATION LEFT IMAGE BRACKETsRIGHT IMAGE BRACKET
tLEFT BINDING BRACKETuRIGHT BINDING BRACKETzhLEFT SQUARE BRACKET WITH UNDERBAR
ziRIGHT SQUARE BRACKET WITH UNDERBARzjLEFT SQUARE BRACKET WITH TICK IN TOP CORNER
zsRIGHT SQUARE BRACKET WITH TICK IN BOTTOM CORNERzwLEFT SQUARE BRACKET WITH TICK IN BOTTOM CORNER
zvRIGHT SQUARE BRACKET WITH TICK IN TOP CORNERztLEFT ANGLE BRACKET WITH DOT
zcRIGHT ANGLE BRACKET WITH DOTzdLEFT ARC LESS-THAN BRACKETzbRIGHT ARC GREATER-THAN BRACKET
zfDOUBLE LEFT ARC GREATER-THAN BRACKETzeRIGHT ARC LESS-THAN BRACKET
zjLEFT BLACK TORTOISE SHELL BRACKETziRIGHT BLACK TORTOISE SHELL BRACKETzjDOTTED FENCE
mVERTICAL ZIGZAG LINEuMEASURED ANGLE OPENING LEFTzcRIGHT ANGLE VARIANT WITH SQUARE
zgMEASURED RIGHT ANGLE WITH DOTzeANGLE WITH S INSIDEsCUTE ANGLElSPHERICAL ANGLE OPENING LEFTeUP
zbTURNED ANGLEmREVERSED ANGLEoANGLE WITH UNDERBARtREVERSED ANGLE WITH UNDERBAR
zdOBLIQUE ANGLE OPENING UPcDOWN
zbMEASURED ANGLE WITH OPEN ARM ENDING IN ARROW POINTING UP AND RIGHTfLEFTlDOWN AND RIGHTfLEFT
nRIGHT AND UPmLEFT AND UPlRIGHT AND DOWNoLEFT AND DOWNzzrREVERSED EMPTY SETsEMPTY SET WITH OVERBAR
hSMALL CIRCLE ABOVEsRIGHT ARROW ABOVErLEFT ARROW ABOVEzgCIRCLE WITH HORIZONTAL BARuD VERTICAL BAR
mPARALLELiREVERSE SOLIDUSpPERPENDICULAR
p DIVIDED BY HORIZONTAL BAR AND TOP HALF DIVIDED BY VERTICAL BARzzmWITH SUPERIMPOSED X
uD ANTICLOCKWISE-ROTATED DIVISION SIGNzsUP ARROW THROUGH CIRCLExCIRCLED WHITE BULLETmBULLET
gLESS-THANjGREATER-THANo WITH SMALL CIRCLE TO THE RIGHTzaTWO HORIZONTAL STROKES TO THE RIGHT
zwSQUARED RISING DIAGONAL SLASHvFALLING DIAGONAL SLASHwASTERISKiSMALL CIRCLElQUARE
oTWO JOINED SQUARESrRIANGLE WITH DOT ABOVEjUNDERBARwS IN TRIANGLEnTRIANGLE WITH SERIFS AT BOTTOM
zfRIGHT TRIANGLE ABOVE LEFT TRIANGLEzjLEFT TRIANGLE BESIDE VERTICAL BAR
ziVERTICAL BAR BESIDE RIGHT TRIANGLEzjBOWTIE WITH LEFT HALF BLACKpRIGHT HALF BLACKzcLACK BOWTIE
mTIMES WITH LEFT HALF BLACKpRIGHT HALF BLACKzcWHITE HOURGLASSpBLACK HOURGLASSpLEFT WIGGLY FENCE
rRIGHT WIGGLY FENCEsLEFT DOUBLE WIGGLY FENCEyRIGHT DOUBLE WIGGLY FENCEzaINCOMPLETE INFINITY
tTIE OVER INFINITYrINFINITY NEGATED WITH VERTICAL BARzjDOUBLE-ENDED MULTIMAP
vSQUARE WITH CONTOURED OUTLINEzeINCREASES ASmSHUFFLE PRODUCTpEQUALS SIGN AND SLANTED PARALLEL
a WITH TILDE ABOVEzyIDENTICAL TO AND SLANTED PARALLELziGLEICH STARKmTHERMODYNAMIC
nDOWN-POINTING TRIANGLE WITH LEFT HALF BLACKpRIGHT HALF BLACKztBLACK DIAMOND WITH DOWN ARROW
xLOZENGEnWHITE CIRCLE WITH DOWN ARROWzdBLACK CIRCLE WITH DOWN ARROWzdERROR-BARRED WHITE SQUARE
mBLACK SQUAREmWHITE DIAMONDnBLACK DIAMONDnWHITE CIRCLEmBLACK CIRCLEzaRULE-DELAYED
lEVERSE SOLIDUS OPERATORySOLIDUS WITH OVERBARuREVERSE SOLIDUS WITH HORIZONTAL STROKEznBIG SOLIDUS
hREVERSE SOLIDUStDOUBLE PLUSlTRIPLE PLUSlLEFT-POINTING CURVED ANGLE BRACKET
zjRIGHT-POINTING CURVED ANGLE BRACKETzkTINYeMINYeN-ARY CIRCLED DOT OPERATORmPLUS OPERATOR
nTIMES OPERATORwUNION OPERATOR WITH DOTdPLUSySQUARE INTERSECTION OPERATORvUNION OPERATOR
zcTWO LOGICAL AND OPERATORmOR OPERATORxN-ARY TIMES OPERATORuMODULO TWO SUMoSUMMATION WITH INTEGRAL
xQUADRUPLE INTEGRAL OPERATORzcFINITE PART INTEGRALuINTEGRAL WITH DOUBLE STROKEsAVERAGE WITH SLASH
zcCIRCULATION FUNCTIONuANTICLOCKWISE INTEGRATION
zaLINE INTEGRATION WITH RECTANGULAR PATH AROUND POLEzdSEMICIRCULAR PATH AROUND POLE
zjNOT INCLUDING THE POLEzoINTEGRAL AROUND A POINT OPERATORzhQUATERNION INTEGRAL OPERATOR
zdINTEGRAL WITH LEFTWARDS ARROW WITH HOOKzaTIMES SIGNkINTERSECTIONmUNIONfOVERBARhUNDERBARwJOIN
eLARGE LEFT TRIANGLE OPERATORzdZ NOTATION SCHEMA COMPOSITIONlPIPINGfROJECTION
zdPLUS SIGN WITH SMALL CIRCLE ABOVEsCIRCUMFLEX ACCENT ABOVExTILDE ABOVElDOT BELOWjTILDE BELOW
lSUBSCRIPT TWOnBLACK TRIANGLEzeMINUS SIGN WITH COMMA ABOVElDOT BELOWjFALLING DOTSmRISING DOTS
zcPLUS SIGN IN LEFT HALF CIRCLEqRIGHT HALF CIRCLEzfVECTOR OR CROSS PRODUCT
xMULTIPLICATION SIGN WITH DOT ABOVEjUNDERBARziSEMIDIRECT PRODUCT WITH BOTTOM CLOSEDzlMASH PRODUCT
nMULTIPLICATION SIGN IN LEFT HALF CIRCLEqRIGHT HALF CIRCLE
zpCIRCLED MULTIPLICATION SIGN WITH CIRCUMFLEX ACCENTzzaMULTIPLICATION SIGN IN DOUBLE CIRCLE
zlCIRCLED DIVISION SIGNvPLUS SIGN IN TRIANGLEvMINUS SIGN IN TRIANGLE
vULTIPLICATION SIGN IN TRIANGLEzgINTERIOR PRODUCTqRIGHTHAND INTERIOR PRODUCT
zbZ NOTATION RELATIONAL COMPOSITIONziAMALGAMATION OR COPRODUCTzaINTERSECTION WITH DOT
vUNION WITH MINUS SIGNkOVERBARsINTERSECTION WITH OVERBARhLOGICAL ANDzeUNION WITH LOGICAL OR
pABOVE INTERSECTIONyINTERSECTION ABOVE UNIONyUNION ABOVE BAR ABOVE INTERSECTION
zjINTERSECTION ABOVE BAR ABOVE UNIONzjUNION BESIDE AND JOINED WITH UNION
zjINTERSECTION BESIDE AND JOINED WITH INTERSECTIONzxCLOSED UNION WITH SERIFS
rINTERSECTION WITH SERIFSzgDOUBLE SQUARE INTERSECTIONmUNION
tCLOSED UNION WITH SERIFS AND SMASH PRODUCTzrLOGICAL AND WITH DOT ABOVEsOR WITH DOT ABOVE
zaDOUBLE LOGICAL ANDdORrTWO INTERSECTING LOGICAL ANDdORzcSLOPING LARGE ORcAND
rLOGICAL OR OVERLAPPING LOGICAL ANDzbAND WITH MIDDLE STEMuOR WITH MIDDLE STEM
tAND WITH HORIZONTAL DASHyOR WITH HORIZONTAL DASHxAND WITH DOUBLE OVERBARoUNDERBARiDOUBLE UNDERBAR
zhSMALL VEE WITH UNDERBARxLOGICAL OR WITH DOUBLE OVERBARhUNDERBAR
zgZ NOTATION DOMAIN ANTIRESTRICTIONwRANGE ANTIRESTRICTIONzhEQUALS SIGN WITH DOT BELOW
zbIDENTICAL WITH DOT ABOVEyTRIPLE HORIZONTAL BAR WITH DOUBLE VERTICAL STROKE
wTRIPLE VERTICAL STROKEzxILDE OPERATOR WITH DOT ABOVEjRISING DOTSzgSIMILAR MINUS SIMILAR
vCONGRUENT WITH DOT ABOVEyEQUALS WITH ASTERISKuALMOST EQUAL TO WITH CIRCUMFLEX ACCENT
zmPPROXIMATELY EQUAL OR EQUAL TOzgEQUALS SIGN ABOVE PLUS SIGNzcPLUS SIGN ABOVE EQUALS SIGN
zcEQUALS SIGN ABOVE TILDE OPERATORzhDOUBLE COLON EQUALsTWO CONSECUTIVE EQUALS SIGNS
zcHREE CONSECUTIVE EQUALS SIGNSzfEQUALS SIGN WITH TWO DOTS ABOVE AND TWO DOTS BELOW
zwIVALENT WITH FOUR DOTS ABOVEzgLESS-THAN WITH CIRCLE INSIDEzdGREATER-THAN WITH CIRCLE INSIDE
zgLESS-THAN WITH QUESTION MARK ABOVEzjGREATER-THAN WITH QUESTION MARK ABOVE
zmLESS-THAN OR SLANTED EQUAL TOzeGREATER-THAN OR SLANTED EQUAL TO
zhLESS-THAN OR SLANTED EQUAL TO WITH DOT INSIDEzuGREATER-THAN OR SLANTED EQUAL TO WITH DOT INSIDE
zxLESS-THAN OR SLANTED EQUAL TO WITH DOT ABOVEztGREATER-THAN OR SLANTED EQUAL TO WITH DOT ABOVE
zwLESS-THAN OR SLANTED EQUAL TO WITH DOT ABOVE RIGHT
zzaGREATER-THAN OR SLANTED EQUAL TO WITH DOT ABOVE LEFTzzcLESS-THAN OR APPROXIMATE
yGREATER-THAN OR APPROXIMATEzcLESS-THAN AND SINGLE-LINE NOT EQUAL TO
znGREATER-THAN AND SINGLE-LINE NOT EQUAL TOzqLESS-THAN AND NOT APPROXIMATE
zeGREATER-THAN AND NOT APPROXIMATEzhLESS-THAN ABOVE DOUBLE-LINE EQUAL ABOVE GREATER-THAN
zzcGREATER-THAN ABOVE DOUBLE-LINE EQUAL ABOVE LESS-THANzzcLESS-THAN ABOVE SIMILAR OR EQUAL
zhGREATER-THAN ABOVE SIMILAR OR EQUALzkLESS-THAN ABOVE SIMILAR ABOVE GREATER-THAN
zrGREATER-THAN ABOVE SIMILAR ABOVE LESS-THANzrLESS-THAN ABOVE GREATER-THAN ABOVE DOUBLE-LINE EQUAL
zzcGREATER-THAN ABOVE LESS-THAN ABOVE DOUBLE-LINE EQUAL
zzcLESS-THAN ABOVE SLANTED EQUAL ABOVE GREATER-THAN ABOVE SLANTED EQUAL
zzsGREATER-THAN ABOVE SLANTED EQUAL ABOVE LESS-THAN ABOVE SLANTED EQUAL
zzsSLANTED EQUAL TO OR LESS-THANjGREATER-THANmLESS-THAN WITH DOT INSIDE
zaGREATER-THAN WITH DOT INSIDEzxDOUBLE-LINE EQUAL TO OR LESS-THANjGREATER-THAN
ySLANTED EQUAL TO OR LESS-THANjGREATER-THANztSIMILAR OR LESS-THANjGREATER-THAN
pABOVE LESS-THAN ABOVE EQUALS SIGNzcGREATER-THAN ABOVE EQUALS SIGNztDOUBLE NESTED LESS-THAN
jGREATER-THANmLESS-THAN WITH UNDERBARzmGREATER-THAN OVERLAPPING LESS-THANvBESIDE LESS-THAN
zeLESS-THAN CLOSED BY CURVEzaGREATER-THAN CLOSED BY CURVE
zdLESS-THAN CLOSED BY CURVE ABOVE SLANTED EQUALzuGREATER-THAN CLOSED BY CURVE ABOVE SLANTED EQUAL
zxSMALLER THANmLARGER THANlSMALLER THAN OR EQUAL TOyLARGER THAN OR EQUAL TO
xEQUALS SIGN WITH BUMPY ABOVEzdPRECEDES ABOVE SINGLE-LINE EQUALS SIGN
znSUCCEEDS ABOVE SINGLE-LINE EQUALS SIGNznPRECEDES ABOVE SINGLE-LINE NOT EQUAL TO
zoSUCCEEDS ABOVE SINGLE-LINE NOT EQUAL TOzoPRECEDES ABOVE EQUALS SIGNzbSUCCEEDS ABOVE EQUALS SIGN
zbPRECEDES ABOVE NOT EQUAL TOzcSUCCEEDS ABOVE NOT EQUAL TOzcPRECEDES ABOVE ALMOST EQUAL TO
zfSUCCEEDS ABOVE ALMOST EQUAL TOzfPRECEDES ABOVE NOT ALMOST EQUAL TO
zjSUCCEEDS ABOVE NOT ALMOST EQUAL TOzjDOUBLE PRECEDESiSUCCEEDSpSUBSET WITH DOTnPERSET WITH DOT
pBSET WITH PLUS SIGN BELOWzaPERSET WITH PLUS SIGN BELOWzcBSET WITH MULTIPLICATION SIGN BELOW
zkPERSET WITH MULTIPLICATION SIGN BELOWzmBSET OF OR EQUAL TO WITH DOT ABOVE
zjPERSET OF OR EQUAL TO WITH DOT ABOVEzlBSET OF ABOVE EQUALS SIGNzaPERSET OF ABOVE EQUALS SIGN
zcBSET OF ABOVE TILDE OPERATORzdPERSET OF ABOVE TILDE OPERATORzfBSET OF ABOVE ALMOST EQUAL TO
zePERSET OF ABOVE ALMOST EQUAL TOzgBSET OF ABOVE NOT EQUAL TOzbPERSET OF ABOVE NOT EQUAL TO
zeQUARE LEFT OPEN BOX OPERATORwRIGHT OPEN BOX OPERATORzfCLOSED SUBSETePERSETgBSET OR EQUAL TO
qPERSET OR EQUAL TOzcSUBSET ABOVE SUPERSETtPERSET ABOVE SUBSETtBSET ABOVE SUBSET
rPERSET ABOVE SUPERSEToBESIDE SUBSETgAND JOINED BY DASH WITH SUBSETzvELEMENT OF OPENING DOWNWARDS
zdPITCHFORK WITH TEE TOPwTRANSVERSAL INTERSECTIONyFORKINGhNONFORKINGkSHORT LEFT TACKjDOWN TACK
jUP TACKnPERPENDICULAR WITH SuVERTICAL BAR TRIPLE RIGHT TURNSTILE
zkDOUBLE VERTICAL BAR LEFT TURNSTILEzjVERTICAL BAR DOUBLE LEFT TURNSTILE
zjDOUBLE VERTICAL BAR DOUBLE LEFT TURNSTILEzqLONG DASH FROM LEFT MEMBER OF DOUBLE VERTICAL
zuSHORT DOWN TACK WITH OVERBARwUP TACK WITH UNDERBARnABOVE SHORT DOWN TACKzkDOUBLE DOWN TACK
jUP TACKhSTROKE NOT SIGNwREVERSED DOUBLE STROKE NOT SIGN
zgDOES NOT DIVIDE WITH REVERSED NEGATION SLASHztVERTICAL LINE WITH CIRCLE ABOVEfBELOW
zgDOWN TACK WITH CIRCLE BELOWzcPARALLEL WITH HORIZONTAL STROKErTILDE OPERATOR
zdTRIPLE VERTICAL BAR BINARY RELATIONpWITH HORIZONTAL STROKEzkCOLON OPERATORoNESTED LESS-THAN
jGREATER-THANzbDOUBLE-LINE SLANTED LESS-THAN OR EQUAL TOvGREATER-THAN OR EQUAL TO
ztTRIPLE SOLIDUS BINARY RELATIONzfLARGE TRIPLE VERTICAL BAR OPERATORzjDOUBLE SOLIDUS OPERATOR
xWHITE VERTICAL BARsN-ARY WHITE VERTICAL BARxORTH EAST WHITE ARROWqWEST WHITE ARROW
wSOUTH EAST WHITE ARROWqWEST WHITE ARROWwLEFT RIGHT WHITE ARROWsWARDS BLACK ARROW
vUPWARDS BLACK ARROWtDOWNWARDS BLACK ARROWvNORTH EAST BLACK ARROWqWEST BLACK ARROW
wSOUTH EAST BLACK ARROWqWEST BLACK ARROWwLEFT RIGHT BLACK ARROWwUP DOWN BLACK ARROW
tRIGHTWARDS ARROW WITH TIP DOWNWARDSjUPWARDSziLEFTWARDS ARROW WITH TIP DOWNWARDSjUPWARDS
zhSQUARE WITH TOP HALF BLACKoBOTTOM HALF BLACKrUPPER RIGHT DIAGONAL HALF BLACK
zgLOWER LEFT DIAGONAL HALF BLACKzrDIAMOND WITH LEFT HALF BLACKpRIGHT HALF BLACKqTOP HALF BLACK
oBOTTOM HALF BLACKzeOTTED SQUAREnBLACK LARGE SQUAREsWHITE LARGE SQUAREsBLACK VERY SMALL SQUARE
xWHITE VERY SMALL SQUARExBLACK PENTAGONoWHITE PENTAGONiHEXAGONnBLACK HEXAGON
nHORIZONTAL BLACK HEXAGONyBLACK LARGE CIRCLEmMEDIUM DIAMONDuWHITE MEDIUM DIAMOND
uBLACK MEDIUM LOZENGEuWHITE MEDIUM LOZENGEuBLACK SMALL DIAMONDhLOZENGEtWHITE SMALL LOZENGE
tBLACK HORIZONTAL ELLIPSEyWHITE HORIZONTAL ELLIPSEyBLACK VERTICAL ELLIPSEwWHITE VERTICAL ELLIPSE
wLEFT ARROW WITH SMALL CIRCLEzdTHREE LEFTWARDS ARROWSwLEFT ARROW WITH CIRCLED PLUS
zcONG LEFTWARDS SQUIGGLE ARROWzdEFTWARDS TWO-HEADED ARROW WITH VERTICAL STROKE
pDOUBLE VERTICAL STROKEzcFROM BARoTRIPLE DASH ARROWzdARROW WITH DOTTED STEM
lTAIL WITH VERTICAL STROKEpDOUBLE VERTICAL STROKEzsTWO-HEADED ARROW WITH TAIL
a WITH VERTICAL STROKEpDOUBLE VERTICAL STROKEzzeARROW THROUGH XzaWAVE ARROW POINTING DIRECTLY LEFT
ziEQUALS SIGN ABOVE LEFTWARDS ARROWziREVERSE TILDE OPERATOR ABOVE LEFTWARDS ARROW
ztLEFTWARDS ARROW ABOVE REVERSE ALMOST EQUAL TOzuRIGHTWARDS ARROW THROUGH GREATER-THANmSUPERSET
ziLEFTWARDS QUADRUPLE ARROWzaRIGHTWARDS QUADRUPLE ARROW
zaEVERSE TILDE OPERATOR ABOVE RIGHTWARDS ARROWztIGHTWARDS ARROW ABOVE REVERSE ALMOST EQUAL TO
zvTILDE OPERATOR ABOVE LEFTWARDS ARROWzlLEFTWARDS ARROW ABOVE ALMOST EQUAL TO
pREVERSE TILDE OPERATORztRIGHTWARDS ARROW ABOVE REVERSE TILDE OPERATOR
zuDOWNWARDS TRIANGLE-HEADED ZIGZAG ARROWznSHORT SLANTED NORTH ARROWtBACKSLANTED SOUTH ARROW
zeWHITE MEDIUM STARrBLACK SMALL STARqWHITE SMALL STARqBLACK RIGHT-POINTING PENTAGON
zeWHITE RIGHT-POINTING PENTAGONzeHEAVY LARGE CIRCLEmOVAL WITH OVAL INSIDE
vCIRCLE WITH CIRCLE INSIDEt@11096aD SALTIREvSLANTED NORTH ARROW WITH HOOKED HEAD
zlBACKSLANTED SOUTH ARROW WITH HOOKED TAILzpSLANTED NORTH ARROW WITH HORIZONTAL TAIL
zpBACKSLANTED SOUTH ARROW WITH HORIZONTAL TAILzsENT ARROW POINTING DOWNWARDS THEN NORTH EAST
zuSHORT BENT ARROW POINTING DOWNWARDS THEN NORTH EASTzzbLEFTWARDS TRIANGLE-HEADED ARROW
zgUPWARDS TRIANGLE-HEADED ARROWzeRIGHTWARDS TRIANGLE-HEADED ARROWzhDOWNWARDS TRIANGLE-HEADED ARROW
zgLEFT RIGHT TRIANGLE-HEADED ARROWzhUP DOWN TRIANGLE-HEADED ARROW
zeNORTH WEST TRIANGLE-HEADED ARROWzbEAST TRIANGLE-HEADED ARROWzhSOUTH EAST TRIANGLE-HEADED ARROW
zbWEST TRIANGLE-HEADED ARROWzhLEFTWARDS TRIANGLE-HEADED DASHED ARROW
znUPWARDS TRIANGLE-HEADED DASHED ARROWzlRIGHTWARDS TRIANGLE-HEADED DASHED ARROW
zoDOWNWARDS TRIANGLE-HEADED DASHED ARROWznCLOCKWISE TRIANGLE-HEADED OPEN CIRCLE ARROW
zsANTICLOCKWISE TRIANGLE-HEADED OPEN CIRCLE ARROWzwLEFTWARDS TRIANGLE-HEADED ARROW TO BAR
znUPWARDS TRIANGLE-HEADED ARROW TO BARzlRIGHTWARDS TRIANGLE-HEADED ARROW TO BAR
zoDOWNWARDS TRIANGLE-HEADED ARROW TO BARznNORTH WEST TRIANGLE-HEADED ARROW TO BAR@11126
ziEAST TRIANGLE-HEADED ARROW TO BARzoSOUTH EAST TRIANGLE-HEADED ARROW TO BAR
ziWEST TRIANGLE-HEADED ARROW TO BARzoLEFTWARDS TRIANGLE-HEADED ARROW WITH DOUBLE HORIZONTAL STROKE
zzlUPWARDS TRIANGLE-HEADED ARROW WITH DOUBLE HORIZONTAL STROKE
zzjRIGHTWARDS TRIANGLE-HEADED ARROW WITH DOUBLE HORIZONTAL STROKE
zzmDOWNWARDS TRIANGLE-HEADED ARROW WITH DOUBLE HORIZONTAL STROKEzzlHORIZONTAL TAB KEY
sVERTICAL TAB KEYqLEFTWARDS TRIANGLE-HEADED ARROW OVER RIGHTWARDS TRIANGLE-HEADED ARROW
zztUPWARDS TRIANGLE-HEADED ARROW LEFTWARDS OF DOWNWARDS TRIANGLE-HEADED ARROW
zzyRIGHTWARDS TRIANGLE-HEADED ARROW OVER LEFTWARDS TRIANGLE-HEADED ARROW
zztDOWNWARDS TRIANGLE-HEADED ARROW LEFTWARDS OF UPWARDS TRIANGLE-HEADED ARROW
zzyLEFTWARDS TRIANGLE-HEADED PAIRED ARROWSzoUPWARDS TRIANGLE-HEADED PAIRED ARROWS
zmRIGHTWARDS TRIANGLE-HEADED PAIRED ARROWSzpDOWNWARDS TRIANGLE-HEADED PAIRED ARROWS
zoLEFTWARDS BLACK CIRCLED WHITE ARROWzkUPWARDS BLACK CIRCLED WHITE ARROW
ziRIGHTWARDS BLACK CIRCLED WHITE ARROWzlDOWNWARDS BLACK CIRCLED WHITE ARROW
zkANTICLOCKWISE TRIANGLE-HEADED RIGHT U-SHAPED ARROWuBOTTOM U-SHAPED ARROWvLEFT U-SHAPED ARROW
tTOP U-SHAPED ARROWzxRETURN LEFTeRIGHTmNEWLINE LEFTeRIGHT
nFOUR CORNER ARROWS CIRCLING ANTICLOCKWISEzqRIGHTWARDS BLACK ARROW
wSYMBOL FOR TYPE A ELECTRONICS@11159zeTHREE-D TOP-LIGHTED LEFTWARDS EQUILATERAL ARROWHEAD
zsRIGHT-LIGHTED UPWARDS EQUILATERAL ARROWHEADzsTOP-LIGHTED RIGHTWARDS EQUILATERAL ARROWHEAD
ztLEFT-LIGHTED DOWNWARDS EQUILATERAL ARROWHEADzzcBLACK LEFTWARDS EQUILATERAL ARROWHEAD
zgUPWARDS EQUILATERAL ARROWHEADzeRIGHTWARDS EQUILATERAL ARROWHEADzhDOWNWARDS EQUILATERAL ARROWHEAD
zmDOWNWARDS TRIANGLE-HEADED ARROW WITH LONG TIP LEFTWARDSjRIGHTWARDS
zzgUPWARDS TRIANGLE-HEADED ARROW WITH LONG TIP LEFTWARDSjRIGHTWARDS
zzeLEFTWARDS TRIANGLE-HEADED ARROW WITH LONG TIP UPWARDS
zzdRIGHTWARDS TRIANGLE-HEADED ARROW WITH LONG TIP UPWARDS
zzeLEFTWARDS TRIANGLE-HEADED ARROW WITH LONG TIP DOWNWARDS
zzfRIGHTWARDS TRIANGLE-HEADED ARROW WITH LONG TIP DOWNWARDS
zzgBLACK CURVED DOWNWARDS AND LEFTWARDS ARROWpRIGHTWARDS ARROWzfUPWARDS AND LEFTWARDS ARROW
pRIGHTWARDS ARROWzdLEFTWARDS AND UPWARDS ARROWzcRIGHTWARDS AND UPWARDS ARROW
zdLEFTWARDS AND DOWNWARDS ARROWzeRIGHTWARDS AND DOWNWARDS ARROWzsRIBBON ARROW DOWN LEFTeRIGHT
kUP LEFTeRIGHTiLEFT UPhRIGHT UPiLEFT DOWNjRIGHT DOWN
xUPWARDS WHITE ARROW FROM BAR WITH HORIZONTAL BARzv ARROWHEAD IN A RECTANGLE BOX
zgOVERLAPPING WHITE SQUAREShAND BLACK SQUARESxBLACK SQUARESzaBALLOT BOX WITH LIGHT XxCIRCLED X
bBOLD XoBLACK SQUARE CENTREDoDIAMOND CENTREDvTURNED BLACK PENTAGONvHORIZONTAL BLACK OCTAGON
yBLACK OCTAGONhMEDIUM UP-POINTING TRIANGLE CENTREDzdDOWN-POINTING TRIANGLE CENTRED
zfLEFT-POINTING TRIANGLE CENTREDzfRIGHT-POINTING TRIANGLE CENTREDztNEPTUNE FORM TWO
qTOP HALF BLACK CIRCLEvBOTTOM HALF BLACK CIRCLEyLIGHT FOUR POINTED BLACK CUSP
zeROTATED LIGHT FOUR POINTED BLACK CUSPzmWHITE FOUR POINTED CUSPxROTATED WHITE FOUR POINTED CUSP
zgSQUARE POSITION INDICATORzaUNCERTAINTY SIGNqGROUP MARKkPLUTO FORM TWOcHREEfFOURdIVEpTRANSPLUTO
kPROSERPINAkASTRAEAhHYGIEAgPHOLUSgNESSUSgWHITE MOON SELENArBLACK DIAMOND ON CROSS
wTRUE LIGHT MOON ARTAuCUPIDOgHADESfZEUSeKRONOSgAPOLLONgDMETOShVULCANUSiPOSEIDON
iLEFT HALF BLACK STARuRIGHT HALF BLACK STARvSTAR WITH LEFT HALF BLACKpRIGHT HALF BLACK
zbLEFTWARDS TWO-HEADED ARROW WITH TRIANGLE ARROWHEADS
zzbUPWARDS TWO-HEADED ARROW WITH TRIANGLE ARROWHEADS
zyRIGHTWARDS TWO-HEADED ARROW WITH TRIANGLE ARROWHEADS
zzcDOWNWARDS TWO-HEADED ARROW WITH TRIANGLE ARROWHEADSzzbERIS FORM ONEdTWOnSEDNA
fRUSSIAN ASTROLOGICAL SYMBOL VIGINTILEjNOVILEgQUINTILEiBINOVILEiSENTAGONiTREDECILE
zmEQUALS SIGN WITH INFINITY BELOWzgUNITED SYMBOLnSEPARATED SYMBOLqDOUBLED SYMBOLoPASSED SYMBOL
nREVERSED RIGHT ANGLEuHELLSCHREIBER PAUSE SYMBOLzbGLAGOLITIC CAPITAL LETTER AZUdBUKYeVEDEeGLAGOLI
hDOBROfYESTUfZHIVETEhDZELOfZEMLJAgIZHEdNITIAL IZHEl@11275bDJERVIgKAKOeLJUDIJEhMYSLITEhNASHIfONU
dPOKOJIgRITSIfSLOVOfTVRIDOgUKUdFRITUfHERUeOTUdPEcSHTAeTSIdCHRIVIgSHAdYERUbIdATIeSPIDERY HAkYU
cSMALL YUSa WITH TAILtYOcIOTATED SMALL YUSrBIG YUShIOTATED BIG YUSpFITAeIZHITSAhSHTAPIC
hTROKUTASTI AmLATINATE MYSLITEqCAUDATE CHRIVIzeSMALL LETTER AZUdBUKYeVEDEeGLAGOLIhDOBROfYESTU
fZHIVETEhDZELOfZEMLJAgIZHEdNITIAL IZHEl@11323bDJERVIgKAKOeLJUDIJEhMYSLITEhNASHIfONUdPOKOJIgRITSI
fSLOVOfTVRIDOgUKUdFRITUfHERUeOTUdPEcSHTAeTSIdCHRIVIgSHAdYERUbIdATIeSPIDERY HAkYUcSMALL YUS
a WITH TAILtYOcIOTATED SMALL YUSrBIG YUShIOTATED BIG YUSpFITAeIZHITSAhSHTAPIChTROKUTASTI A
mLATINATE MYSLITEqCAUDATE CHRIVIznLATIN CAPITAL LETTER L WITH DOUBLE BAR
zhSMALL LETTER L WITH DOUBLE BARzfCAPITAL LETTER L WITH MIDDLE TILDEtP WITH STROKEnR WITH TAIL
zbSMALL LETTER A WITH STROKEnT WITH DIAGONAL STROKEzkCAPITAL LETTER H WITH DESCENDER
zgSMALL LETTER H WITH DESCENDERzeCAPITAL LETTER K WITH DESCENDERzgSMALL LETTER K WITH DESCENDER
zeCAPITAL LETTER Z WITH DESCENDERzgSMALL LETTER Z WITH DESCENDERzeCAPITAL LETTER ALPHAfM WITH HOOK
lTURNED AaLPHAzcSMALL LETTER V WITH RIGHT HOOKzfCAPITAL LETTER W WITH HOOK
zbSMALL LETTER W WITH HOOKlV WITH CURLyCAPITAL LETTER HALF HvSMALL LETTER HALF HgTAILLESS PHI
mE WITH NOTCHmTURNED R WITH TAILsO WITH LOW RING INSIDEzkLETTER SMALL CAPITAL TURNED E
zeSUBSCRIPT SMALL LETTER JzfMODIFIER LETTER CAPITAL VzaLATIN CAPITAL LETTER S WITH SWASH TAIL
rZ WITH SWASH TAILznCOPTIC CAPITAL LETTER ALFAtSMALL LETTER ALFArCAPITAL LETTER VIDA
tSMALL LETTER VIDArCAPITAL LETTER GAMMAuSMALL LETTER GAMMAsCAPITAL LETTER DALDAuSMALL LETTER DALDA
sCAPITAL LETTER EIEsSMALL LETTER EIEqCAPITAL LETTER SOUsSMALL LETTER SOUqCAPITAL LETTER ZATA
tSMALL LETTER ZATArCAPITAL LETTER HATEtSMALL LETTER HATErCAPITAL LETTER THETHEvSMALL LETTER THETHE
tCAPITAL LETTER IAUDAuSMALL LETTER IAUDAsCAPITAL LETTER KAPAtSMALL LETTER KAPA
rCAPITAL LETTER LAULAuSMALL LETTER LAULAsCAPITAL LETTER MIrSMALL LETTER MIpCAPITAL LETTER NI
rSMALL LETTER NIpCAPITAL LETTER KSIsSMALL LETTER KSIqCAPITAL LETTER OqSMALL LETTER O
oCAPITAL LETTER PIrSMALL LETTER PIpCAPITAL LETTER ROrSMALL LETTER ROpCAPITAL LETTER SIMA
tSMALL LETTER SIMArCAPITAL LETTER TAUsSMALL LETTER TAUqCAPITAL LETTER UArSMALL LETTER UA
pCAPITAL LETTER FIrSMALL LETTER FIpCAPITAL LETTER KHIsSMALL LETTER KHIqCAPITAL LETTER PSI
sSMALL LETTER PSIqCAPITAL LETTER OOUsSMALL LETTER OOUqCAPITAL LETTER DIALECT-P ALEF
zeSMALL LETTER DIALECT-P ALEFzcCAPITAL LETTER OLD COPTIC AINzeSMALL LETTER OLD COPTIC AIN
zcCAPITAL LETTER CRYPTOGRAMMIC EIEzhSMALL LETTER CRYPTOGRAMMIC EIEzfCAPITAL LETTER DIALECT-P KAPA
zeSMALL LETTER DIALECT-P KAPAzcCAPITAL LETTER DIALECT-P NIzcSMALL LETTER DIALECT-P NI
zaCAPITAL LETTER CRYPTOGRAMMIC NIzgSMALL LETTER CRYPTOGRAMMIC NIzeCAPITAL LETTER OLD COPTIC OOU
zeSMALL LETTER OLD COPTIC OOUzcCAPITAL LETTER SAMPIuSMALL LETTER SAMPIsCAPITAL LETTER CROSSED SHEI
zcSMALL LETTER CROSSED SHEIzaCAPITAL LETTER OLD COPTIC SHEIzfSMALL LETTER OLD COPTIC SHEI
zdCAPITAL LETTER OLD COPTIC ESHzeSMALL LETTER OLD COPTIC ESHzcCAPITAL LETTER AKHMIMIC KHEI
zdSMALL LETTER AKHMIMIC KHEIzbCAPITAL LETTER DIALECT-P HORIzeSMALL LETTER DIALECT-P HORI
zcCAPITAL LETTER OLD COPTIC HORIzfSMALL LETTER OLD COPTIC HORIzdCAPITAL LETTER OLD COPTIC HA
zdSMALL LETTER OLD COPTIC HAzbCAPITAL LETTER L-SHAPED HAzbSMALL LETTER L-SHAPED HA
yCAPITAL LETTER OLD COPTIC HEIzeSMALL LETTER OLD COPTIC HEIzcCAPITAL LETTER OLD COPTIC HAT
zeSMALL LETTER OLD COPTIC HATzcCAPITAL LETTER OLD COPTIC GANGIAzhSMALL LETTER OLD COPTIC GANGIA
zfCAPITAL LETTER OLD COPTIC DJAzeSMALL LETTER OLD COPTIC DJAzcCAPITAL LETTER OLD COPTIC SHIMA
zgSMALL LETTER OLD COPTIC SHIMAzeCAPITAL LETTER OLD NUBIAN SHIMAzgSMALL LETTER OLD NUBIAN SHIMA
zeCAPITAL LETTER OLD NUBIAN NGIzeSMALL LETTER OLD NUBIAN NGIzcCAPITAL LETTER OLD NUBIAN NYI
zeSMALL LETTER OLD NUBIAN NYIzcCAPITAL LETTER OLD NUBIAN WAUzeSMALL LETTER OLD NUBIAN WAU
zbYMBOL KAIdMI ROfPI ROfSTAUROShTAU ROgKHI ROgSHIMA SIMArCAPITAL LETTER CRYPTOGRAMMIC SHEI
ziSMALL LETTER CRYPTOGRAMMIC SHEIzgCAPITAL LETTER CRYPTOGRAMMIC GANGIA
zkSMALL LETTER CRYPTOGRAMMIC GANGIAziCOMBINING NI ABOVEiSPIRITUS ASPERfLENIS
xAPITAL LETTER BOHAIRIC KHEIzdSMALL LETTER BOHAIRIC KHEIzbOLD NUBIAN FULL STOP@11513
jDIRECT QUESTION MARKuINDIRECT QUESTION MARKwVERSE DIVIDERyFRACTION ONE HALFqULL STOP
jMORPHOLOGICAL DIVIDERzdGEORGIAN SMALL LETTER ANcBANdGANdDONdENcVINdZENdTANdINcKANdLASdMANdNARdON
cPARdZHAReRAEdSANdTARdUNcPHAReKHAReGHANeQARdSHINeCHINdANdJILdCILcHAReXANdJHANeHAEcEbIEdWEcHARcOE
dYN@11559cAEN@11565zaTIFINAGH LETTER YA@11568aBaHcGaHHfBERBER ACADEMY YAJsYAJbDaHbDaHeEYcAFbK
dTUAREG YAKkYAKHHdHdBERBER ACADEMY YAHsTUAREG YAHkYAHHcAbKHeTUAREG YAKHlYAQdTUAREG YAQkYIbAZH
eAHAGGAR YAZHmTUAREG YAZHlYALbMbNdTUAREG YAGNcNGlYAPcUbARaRcGHeTUAREG YAGHlAYER YAGHjYASaSbHcTaH
cCHcTTcVbWbYbZdTAWELLEMET YAZoYAZZdEbOjMODIFIER LETTER LABIALIZATION MARK@11631zjSEPARATOR MARK
oCONSONANT JOINER@11647zaETHIOPIC SYLLABLE LOAdMOAdROAdSOAcHOAeBOAdTOAdCOAdNOAcYOAeGLOTTAL OAkZOA
dDOAcDOAeJOAdTHOAeCHOAePHOAdOAdGGWAbIbEEb@11670eSSA@11680bUbIbAAcEEb@11685bOdCCA@11688bUbIbAAcEE
b@11693bOdZZA@11696bUbIbAAcEEb@11701bOdCCHA@11704bUbIbAAcEEb@11709bOeQYA@11712bUbIbAAcEEb@11717bO
dKYA@11720bUbIbAAcEEb@11725bOdXYA@11728bUbIbAAcEEb@11733bOdGYA@11736bUbIbAAcEEb@11741bO
vCOMBINING CYRILLIC LETTER BE@11744cVEcGHEdDEcZHEcEcKAcELbMbNcObPEcERbScTEcHAcTSEdCHEdSHAbCHAfFITA
eES-TEfAbIEcDJERVfMONOGRAPH UKmYATcUcIOTIFIED AkLITTLE YUSkBIG YUShIOTIFIED BIG YUS
zrRIGHT ANGLE SUBSTITUTION MARKERtDOTTED SUBSTITUTION MARKERznLEFT SUBSTITUTION BRACKET
zaRIGHT SUBSTITUTION BRACKETzbLEFT DOTTED SUBSTITUTION BRACKETzhRIGHT DOTTED SUBSTITUTION BRACKET
zhAISED INTERPOLATION MARKERuDOTTED INTERPOLATION MARKERzjDOTTED TRANSPOSITION MARKER
zcLEFT TRANSPOSITION BRACKETzbRIGHT TRANSPOSITION BRACKETzbAISED SQUARE
nLEFT RAISED OMISSION BRACKETzdRIGHT RAISED OMISSION BRACKETzeEDITORIAL CORONISrPARAGRAPHOS
lFORKED PARAGRAPHOSsREVERSED FORKED PARAGRAPHOSzcHYPODIASTOLEmDOTTED OBELOSlWNWARDS ANCORA
qUPWARDS ANCORAoDOTTED RIGHT-POINTING ANGLEzaUBLE OBLIQUE HYPHENvINVERTED INTERROBANGuPALM BRANCH
lHYPHEN WITH DIAERESISvTILDE WITH RING ABOVEvLEFT LOW PARAPHRASE BRACKET
zcRIGHT LOW PARAPHRASE BRACKETzdTILDE WITH DOT ABOVEfBELOWuLEFT VERTICAL BAR WITH QUILL
zdRIGHT VERTICAL BAR WITH QUILLzeTOP LEFT HALF BRACKETrRIGHT HALF BRACKETwBOTTOM LEFT HALF BRACKET
rRIGHT HALF BRACKETzaLEFT SIDEWAYS U BRACKETxRIGHT SIDEWAYS U BRACKETyLEFT DOUBLE PARENTHESIS
xRIGHT DOUBLE PARENTHESISyTWO DOTS OVER ONE DOT PUNCTUATIONziONE DOT OVER TWO DOTS PUNCTUATION
ziSQUARED FOUR DOT PUNCTUATIONzdFIVE DOT MARKnREVERSED QUESTION MARKwVERTICAL TILDEoRING POINT
kWORD SEPARATOR MIDDLE DOTzaTURNED COMMAmRAISED DOTdCOMMAmTURNED SEMICOLONqDAGGER WITH LEFT GUARD
kRIGHT GUARDxTURNED DAGGERmOP HALF SECTION SIGNuWO-EM DASHkHREE-EM DASHnSTENOGRAPHIC FULL STOP
wVERTICAL SIX DOTSrWIGGLY VERTICAL LINEuCAPITULUMjDOUBLE HYPHENnREVERSED COMMA
oDOUBLE LOW-REVERSED-9 QUOTATION MARKzkASH WITH LEFT UPTURNuOUBLE SUSPENSION MARK
wINVERTED LOW KAVYKAa WITH KAVYKA ABOVEzmLOW KAVYKAa WITH DOTtDOUBLE STACKED COMMAsTTED SOLIDUS
oTRIPLE DAGGERnMEDIEVAL COMMAoPARAGRAPHUS MARKpUNCTUS ELEVATUS MARKvCORNISH VERSE DIVIDER
uROSS PATTY WITH RIGHT CROSSBARoLEFT CROSSBARzfTIRONIAN SIGN CAPITAL ETyMEDIEVAL EXCLAMATION MARK
qQUESTION MARKwLEFT SQUARE BRACKET WITH STROKEzgRIGHT SQUARE BRACKET WITH STROKE
zhLEFT SQUARE BRACKET WITH DOUBLE STROKEznRIGHT SQUARE BRACKET WITH DOUBLE STROKE
zoTOP HALF LEFT PARENTHESISqRIGHT PARENTHESISzbBOTTOM HALF LEFT PARENTHESISqRIGHT PARENTHESIS
zeOBLIQUE HYPHENoCJK RADICAL REPEAT@11904gCLIFFfSECOND ONEdTWOcHREEmPERSONgBOXdTABLEfKNIFE ONEdTWO
jDIVINATIONkSEALdMALL ONEdTWOjLAME ONEdTWOcHREEfFOURjSNAKEfTHREADgSNOUT ONEdTWOjHEART ONEdTWOiAND
eRAPdCHOKE@11931fSUNdMOONeDEATHfMOTHERgCIVILIANiWATER ONEdTWOjFIREePAW ONEdTWO
hSIMPLIFIED HALF TREE TRUNKzbCOWdDOGdJADEeBOLT OF CLOTHnEYEdSPIRIT ONEdTWOkBAMBOOgSILK
eC-SIMPLIFIED SILKrNET ONEdTWOcHREEfFOURiMESHeSHEEPfRAMdEWEdOLDdBRUSH ONEdTWOjMEATdORTARgGRASS ONE
dTWOcHREElTIGERfCLOTHEShWEST ONEdTWOiC-SIMPLIFIED SEEqSIMPLIFIED HORNpHORNeC-SIMPLIFIED SPEECH
fHELLsFOOTeC-SIMPLIFIED CARTrSIMPLIFIED WALKpWALK ONEdTWOiCITYd-SIMPLIFIED GOLDrLONG ONEdTWO
iC-SIMPLIFIED LONGeGATErMOUND ONEdTWOjRAINeBLUEeC-SIMPLIFIED TANNED LEATHERoLEAFeWINDeFLYqEAT ONE
dTWOcHREEjC-SIMPLIFIED EATqHEADeC-SIMPLIFIED HORSEsBONEeGHOSTfC-SIMPLIFIED FISHeBIRDeSALT
rSIMPLIFIED WHEATfYELLOWrC-SIMPLIFIED FROGrJ-SIMPLIFIED EVENrC-SIMPLIFIED EVENrJ-SIMPLIFIED TOOTH
sC-SIMPLIFIED TOOTHsJ-SIMPLIFIED DRAGONtC-SIMPLIFIED DRAGONtTURTLEgJ-SIMPLIFIED TURTLE
tC-SIMPLIFIED TURTLEzgKANGXI RADICAL ONE@12032dLINEeDOTdSLASHeECONDgHOOKeTWOdLIDdMANdLEGSeENTER
eIGHTfDOWN BOXiCOVERfICEdTABLEfOPEN BOXiKNIFEfPOWERfWRAPeSPOONfRIGHT OPEN BOXoHIDING ENCLOSUREqTEN
dDIVINATIONkSEALeCLIFFfPRIVATEhAGAINfMOUTHfENCLOSUREiARTHfSCHOLARhGOa SLOWLYjEVENINGhBIGdWOMAN
fCHILDfROOFeINCHeSMALLfLAMEeCORPSEgSPROUTgMOUNTAINiRIVERfWORKeONESELFhTURBANgDRYdSHORT THREAD
mDOTTED CLIFFmLONG STRIDElTWO HANDSjSHOOTfBOWdSNOUTfBRISTLEhSTEPeHEARTeALBERDhDOOReHANDeBRANCHgRAP
dSCRIPTgDIPPERgAXEdSQUAREgNOTdSUNcAYdMOONeTREEeLACKeSTOPeDEATHfWEAPONgDO NOTgCOMPAREhFURdCLAN
eSTEAMfWATERfFIREeCLAWeFATHERgDOUBLE XiHALF TREE TRUNKpSLICEfFANGeCOWdDOGdPROFOUNDiJADEeMELONfTILE
eSWEETfLIFEeUSEdFIELDfBOLT OF CLOTHnSICKNESSiDOTTED TENTlWHITEfSKINeDISHeEYEdSPEARfARROWfSTONE
ePIRITgTRACKfGRAINfCAVEeSTANDfBAMBOOgRICEeSILKeJARdNETdSHEEPfFEATHERhOLDdANDdPLOWeEARdBRUSHfMEAT
dINISTERiSELFeARRIVEgMORTARgTONGUEgOPPOSEgBOATeSTOPPINGiCOLORfGRASSfTIGERfINSECTgBLOOD
fWALK ENCLOSUREoCLOTHEShWESTeSEEdHORNeSPEECHgVALLEYgBEANePIGdBADGERgSHELLfREDcUNdFOOTeBODYeCART
eBITTERgMORNINGhWALKeCITYeWINEeDISTINGUISHlVILLAGEhGOLDeLONGeGATEeMOUNDfSLAVEeHORT TAILED BIRD
rRAINeBLUEeWRONGfFACEeLEATHERhTANNED LEATHERoLEEKeSOUNDfLEAFeWINDeFLYdEATdHEADeFRAGRANTiHORSEfBONE
eTALLeHAIReFIGHTfSACRIFICIAL WINEqCAULDRONiGHOSTfFISHeBIRDeSALTeDEEReWHEATfHEMPeYELLOWgMILLET
gBLACKfEMBROIDERYkFROGeTRIPODgDRUMeRATdNOSEeEVENeTOOTHfDRAGONgTURTLEgFLUTE
uIDEOGRAPHIC DESCRIPTION CHARACTER LEFT TO RIGHT@12272nABOVE TO BELOWoLEFT TO MIDDLE AND RIGHT
yABOVE TO MIDDLE AND BELOWzaFULL SURROUNDnSURROUND FROM ABOVEfBELOWfLEFTeUPPER LEFTeRIGHT
lLOWER LEFTyOVERLAIDzfSPACE@12288fCOMMAfFULL STOPvDITTO MARKkJAPANESE INDUSTRIAL STANDARD SYMBOL
zkIDEOGRAPHIC ITERATION MARKoCLOSING MARKmNUMBER ZEROxLEFT ANGLE BRACKETsRIGHT ANGLE BRACKET
tLEFT DOUBLE ANGLE BRACKETzaRIGHT DOUBLE ANGLE BRACKETzbLEFT CORNER BRACKETtRIGHT CORNER BRACKET
uLEFT WHITE CORNER BRACKETzaRIGHT WHITE CORNER BRACKETzbLEFT BLACK LENTICULAR BRACKET
zeRIGHT BLACK LENTICULAR BRACKETzfPOSTAL MARKlGETA MARKjLEFT TORTOISE SHELL BRACKET
zcRIGHT TORTOISE SHELL BRACKETzdLEFT WHITE LENTICULAR BRACKETzeRIGHT WHITE LENTICULAR BRACKET
zfLEFT WHITE TORTOISE SHELL BRACKETziRIGHT WHITE TORTOISE SHELL BRACKETzjLEFT WHITE SQUARE BRACKET
zaRIGHT WHITE SQUARE BRACKETzbWAVE DASHjREVERSED DOUBLE PRIME QUOTATION MARK
zlDOUBLE PRIME QUOTATION MARKzcLOW DOUBLE PRIME QUOTATION MARKzgPOSTAL MARK FACE
qHANGZHOU NUMERAL ONEdTWOcHREEfFOURdIVEeSIXcEVENfEIGHTfNINEvIDEOGRAPHIC LEVEL TONE MARK
pRISING TONE MARKqDEPARTING TONE MARKtENTERING TONE MARKzfHANGUL SINGLE DOT TONE MARK
uDOUBLE DOT TONE MARKzcWAVY DASHjVERTICAL KANA REPEAT MARKeWITH VOICED SOUND MARKwMARK UPPER HALF
pWITH VOICED SOUND MARK UPPER HALFziMARK LOWER HALFzlCIRCLED POSTAL MARK
tIDEOGRAPHIC TELEGRAPH LINE FEED SEPARATOR SYMBOLzxHANGZHOU NUMERAL TENcWENTYfHIRTY
xVERTICAL IDEOGRAPHIC ITERATION MARKzkMASU MARKjPART ALTERNATION MARK
vIDEOGRAPHIC VARIATION INDICATORtHALF FILL SPACEzcHIRAGANA LETTER SMALL A@12353hAbSMALL IhI
bSMALL UhUbSMALL EhEbSMALL OhObKAcGAcKIcGIcKUcGUcKEcGEcKOcGOcSAcZAcSIcZIcSUcZUcSEcZEcSOcZOcTAcDA
cTIcDIcSMALL TUiTUcDUcTEcDEcTOcDOcNAbIbUbEbOcHAcBAcPAcHIcBIcPIcHUcBUcPUcHEcBEcPEcHOcBOcPOcMAbIbUbE
bOcSMALL YAiYAcSMALL YUiYUcSMALL YOiYOcRAbIbUbEbOcSMALL WAiWAbIbEbOcNbVUcSMALL KAbE
yCOMBINING KATAKANA-HIRAGANA VOICED SOUND MARK@12441rSEMI-VOICED SOUND MARK
zzaKATAKANA-HIRAGANA VOICED SOUND MARKrSEMI-VOICED SOUND MARKzpHIRAGANA ITERATION MARK
oVOICED ITERATION MARKvDIGRAPH YORIvKATAKANA-HIRAGANA DOUBLE HYPHENx LETTER SMALL AhAbSMALL IhI
bSMALL UhUbSMALL EhEbSMALL OhObKAcGAcKIcGIcKUcGUcKEcGEcKOcGOcSAcZAcSIcZIcSUcZUcSEcZEcSOcZOcTAcDA
cTIcDIcSMALL TUiTUcDUcTEcDEcTOcDOcNAbIbUbEbOcHAcBAcPAcHIcBIcPIcHUcBUcPUcHEcBEcPEcHOcBOcPOcMAbIbUbE
bOcSMALL YAiYAcSMALL YUiYUcSMALL YOiYOcRAbIbUbEbOcSMALL WAiWAbIbEbOcNbVUcSMALL KAbEiVAbIbEbO
jMIDDLE DOTl-HIRAGANA PROLONGED SOUND MARKzf ITERATION MARKoVOICED ITERATION MARKvDIGRAPH KOTO
vBOPOMOFO LETTER B@12549bPbMbFbDbTbNbLbGbKbHbJbQbXbZHcCHcSHcRbZbCbSbAbObEaHcAIcEIcAUcOUcANcENcANG
dENGcRcIbUbIUcVbNGcGNcIHcO WITH DOT ABOVEqNNsHANGUL LETTER KIYEOK@12593gSSANGKIYEOKlKIYEOK-SIOS
lNIEUNa-CIEUCfHIEUHlTIKEUTgSSANGTIKEUTlRIEULa-KIYEOKgMIEUMfPIEUPfSIOSeTHIEUTHhPHIEUPHhHIEUHlMIEUM
fPIEUPfSSANGPIEUPkPIEUP-SIOSkSIOSdSANGSIOSjIEUNGfCIEUCfSSANGCIEUCkCHIEUCHhKHIEUKHhTHIEUTHhPHIEUPH
hHIEUHfAaEcYAaEdEOb@12628bYEOb@12630cObWAaEdOEcYOcUbWEOb@12638bIcYUcEUcYIcIiFILLER
gLETTER SSANGNIEUNkNIEUN-TIKEUTgSIOSePANSIOSnRIEUL-KIYEOK-SIOSlTIKEUTgPIEUP-SIOSjANSIOS
hYEORINHIEUHrMIEUM-PIEUPfSIOSePANSIOSnKAPYEOUNMIEUMnPIEUP-KIYEOKgTIKEUTgSIOS-KIYEOKgTIKEUTlCIEUC
fTHIEUTHnKAPYEOUNPIEUPfSSANGPIEUPsSIOS-KIYEOKgNIEUNfTIKEUTgPIEUPfCIEUCkPANSIOShSSANGIEUNGkYESIEUNG
a-SIOSePANSIOSqKAPYEOUNPHIEUPHpSSANGHIEUHkYEORINHIEUHkO-YAaEdIdU-YEOb@12683cIeARAEAaE
uIDEOGRAPHIC ANNOTATION LINKING MARK@12688mREVERSE MARKmONE MARKiTWO MARKhHREE MARKkFOUR MARK
jTOP MARKiMIDDLE MARKlBOTTOM MARKlFIRST MARKkSECOND MARKlTHIRD MARKkFOURTH MARKlHEAVEN MARK
lEARTH MARKkMAN MARKzgBOPOMOFO LETTER BUcZIcJIcGUcEEbNNdOObNNdIRcANNdINNdUNNdIMcNGGdAINNdUNNdMcOM
bNGdINNNlFINAL LETTER PbTbKbHoLETTER GHcLHcZYjFINAL LETTER GoLETTER GWcKWcOEcAHsCJK STROKE TbWGcXG
cBXGdSWcHZZbGcPbZWGeSZWGeHZTbZPdPWGdZWbZZeNbHbSbPbSPcDbHZbGcSZbWZcTbGcPDbZcTNcSZZcWGdHXWGdZZZGfPG
cQmKATAKANA LETTER SMALL KU@12784cSIbUcTOcNUcHAbIbUbEbOcMUcRAbIbUbEbOyPARENTHESIZED HANGUL KIYEOK
gNIEUNfTIKEUTgRIEULfMIEUMfPIEUPfSIOSeIEUNGfCIEUCeHIEUCHhKHIEUKHhTHIEUTHhPHIEUPHhHIEUHfKIYEOK A
iNIEUN AhTIKEUT AiRIEUL AhMIEUM AhPIEUP AhSIOS AgIEUNG AhCIEUC AgHIEUCH AjKHIEUKH AjTHIEUTH A
jPHIEUPH AjHIEUH AhCIEUC UoKOREAN CHARACTER OJEONe HUvIDEOGRAPH ONE@12832dTWOcHREEfFOURdIVEeSIX
cEVENfEIGHTfNINEeTENdMOONeFIREeWATEReOODeMETALfEARTHfSUNcTOCKfHAVEeSOCIETYhNAMEeSPECIALhFINANCIAL
jCONGRATULATIONoLABORfREPRESENTjCALLeSTUDYeUPERVISEjENTERPRISEkRESOURCEiALLIANCEiFESTIVALiREST
eSELFeREACHzeCIRCLED IDEOGRAPH QUESTIONiKINDERGARTENmSCHOOLgKOTOoNUMBER TEN ON BLACK SQUARE
sWENTY ON BLACK SQUAREvHIRTY ON BLACK SQUAREwFORTY ON BLACK SQUAREuIFTY ON BLACK SQUARE
vSIXTY ON BLACK SQUAREuEVENTY ON BLACK SQUARExEIGHTY ON BLACK SQUAREzmPARTNERSHIP SIGN
qCIRCLED NUMBER TWENTY ONEdTWOcHREEfFOURdIVEeSIXcEVENfEIGHTfNINEkHIRTYa ONEdTWOcHREEfFOURdIVE
sHANGUL KIYEOKgNIEUNfTIKEUTgRIEULfMIEUMfPIEUPfSIOSeIEUNGfCIEUCeHIEUCHhKHIEUKHhTHIEUTHhPHIEUPH
hHIEUHfKIYEOK AiNIEUN AhTIKEUT AiRIEUL AhMIEUM AhPIEUP AhSIOS AgIEUNG AhCIEUC AgHIEUCH AjKHIEUKH A
jTHIEUTH AjPHIEUPH AjHIEUH AoKOREAN CHARACTER CHAMKOgJUEUIwHANGUL IEUNG UwKOREAN STANDARD SYMBOL
wCIRCLED IDEOGRAPH ONEdTWOcHREEfFOURdIVEeSIXcEVENfEIGHTfNINEeTENdMOONeFIREeWATEReOODeMETALfEARTH
fSUNcTOCKfHAVEeSOCIETYhNAMEeSPECIALhFINANCIALjCONGRATULATIONoLABORfSECRETgMALEeFEMALEgSUITABLE
iEXCELLENTjPRINTfATTENTIONjITEMeRESTeCOPYcRRECThHIGHeCENTREgLOWcEFTeRIGHTfMEDICINEiRELIGIONiSTUDY
eUPERVISEjENTERPRISEkRESOURCEiALLIANCEiNIGHTpNUMBER THIRTY SIXcEVENfEIGHTfNINElFORTYa ONEdTWOcHREE
fFOURdIVEeSIXcEVENfEIGHTfNINEjIFTYuIDEOGRAPHIC TELEGRAPH SYMBOL FOR JANUARYhFEBRUARYiMARCHfAPRIL
fMAYdJUNEcLYeAUGUSTgSEPTEMBERjOCTOBERhNOVEMBERiDECEMBERzqSQUARE HGcERGcVjLIMITED LIABILITY SIGN
wCIRCLED KATAKANA AbIbUbEbObKAbIbUbEbOcSAbIbUbEbOcTAbIbUbEbOcNAbIbUbEbOcHAbIbUbEbOcMAbIbUbEbOcYAbU
bOcRAbIbUbEbOcWAbIbEbOtSQUARE ERA NAME REIWAoAPAATOfRUHUAfNPEAeARUeININGUeTIeUONdESUKUUDOhEKAA
fONSUdOMUeKAIRIdRATTOeORIIhGARONdNMAeIGAcNIIfKYURIIgGIRUDAAhKIROaGURAMUgMEETORUhWATTOjGURAMUaTON
jKURUZEIROgOONEgEESUeORUNAeOPOfSAIKURUfNTIIMUhIRINGUgENTIbOfDAASUeESIdORUeTONdNANOdOTTOfHAITU
fPAASENTOfTUfBAARERUhPIASUTORUhKURUdOeBIRUeHUARADDOgIITOgBUSSYERUiHURANeEKUTAARUjPESOcNIHIgHERUTU
gPENSUdEZIfBEETAfPOINTOgBORUTOgHONdPONDOfHOORUcNeMAIKUROeRUdHHAdRUKUeNSYONgIKURONfRIaBAARUiEGAaTON
fETORUhYAADOcRUeUANeRITTORUfRAdUPIIdUBURUgEMUcNTOGENiWATTO
mIDEOGRAPHIC TELEGRAPH SYMBOL FOR HOUR ZEROeONEdTWOcHREEfFOURdIVEeSIXcEVENfEIGHTfNINEeTENdELEVEN
gTWELVEfHIRTEENiFOURTEENhIFTEENhSIXTEENgEVENTEENjEIGHTEENiNINETEENiTWENTYa-ONEdTWOcHREEfFOUR
zySQUARE HPAdDAcAUcBARdOVcPCcDMa SQUAREDhCUBEDiIUcERA NAME HEISEIgSYOUWAgTAISYOUhMEIZIoCORPORATION
lPA AMPShNAcMU AdAcKAbBcMBcGBcCALdKCALePFcNFcMU FbGdGcKGcHZcKHZdMHZdGHZdTHZdMU LdLcDLcKLcFMcNM
cMU MdMcCMcKMcMM SQUAREDkCM SQUAREDkM SQUAREDjKM SQUAREDkMM CUBEDiCM CUBEDiM CUBEDhKM CUBED
iM OVER Sa SQUAREDqPAcKPAdMPAdGPAdRADa OVER Sa SQUAREDsPScNScMU SdScPVcNVcMU VdVcKVcMV MEGAhPWcNW
cMU WdWcKWcMW MEGAhK OHMfM OHMfAMcBQcCCbDb OVER KGiOcDBcGYcHAbPcINcKKbM CAPITALjTcLMbNbOGcX
cMB SMALLhILcOLdPHbMbPMcRcSRbVcWBcV OVER MiA OVER MpIDEOGRAPHIC TELEGRAPH SYMBOL FOR DAY ONEdTWO
cHREEfFOURdIVEeSIXcEVENfEIGHTfNINEeTENdELEVENgTWELVEfHIRTEENiFOURTEENhIFTEENhSIXTEENgEVENTEEN
jEIGHTEENiNINETEENiTWENTYa-ONEdTWOcHREEfFOURdIVEeSIXcEVENfEIGHTfNINEkHIRTYa-ONEzwSQUARE GAL
kHEXAGRAM FOR THE CREATIVE HEAVEN@19904pRECEPTIVE EARTHtDIFFICULTY AT THE BEGINNING
zcYOUTHFUL FOLLYoWAITINGhCONFLICTiTHE ARMYiHOLDING TOGETHERqSMALL TAMINGmTREADINGiPEACEfSTANDSTILL
kFELLOWSHIPkGREAT POSSESSIONqMODESTYhENTHUSIASMkFOLLOWINGjWORK ON THE DECAYEDtAPPROACH
iCONTEMPLATIONnBITING THROUGHoGRACEfSPLITTING APARTpRETURNgINNOCENCEjGREAT TAMINGmMOUTH CORNERS
nGREAT PREPONDERANCEtTHE ABYSMAL WATERnCLINGING FIRErINFLUENCEjDURATIONiRETREAThGREAT POWER
lPROGRESSiDARKENING OF THE LIGHTwTHE FAMILYkOPPOSITIONjBSTRUCTIONlDELIVERANCEjCREASEiINCREASE
iBREAKTHROUGHmCOMING TO MEEToGATHERING TOGETHERsPUSHING UPWARDoOPPRESSIONkTHE WELLiREVOLUTION
kTHE CAULDRONiAROUSING THUNDERqKEEPING STILL MOUNTAINzbDEVELOPMENTlTHE MARRYING MAIDENtABUNDANCE
jTHE WANDERERiGENTLE WINDlJOYOUS LAKEpDISPERSIONkLIMITATIONkINNER TRUTHlSMALL PREPONDERANCE
tAFTER COMPLETIONqBEFORE COMPLETIONzfYI SYLLABLE IT@40960bXb@40962aPbETbXb@40966aPdATbXb@40970aP
cUOXb@40973aPdOTbXb@40977aPcEXb@40980bWUcBITbXb@40984aPbETbXb@40988aPdATbXb@40992aPcUOXb@40995aP
dOTbXb@40999aPcEXb@41002aPcUTbXb@41006aPbRXb@41009cYTbXb@41012aPbRXb@41015dPITbXb@41018aPbEX
b@41021aPdATbXb@41025aPcUOXb@41028aPdOTbXb@41032aPcUTbXb@41036aPbRXb@41039cYTbXb@41042aPbRXb@41045
dBBITbXb@41048aPbETbXb@41052aPdATbXb@41056aPcUOXb@41059aPdOTbXb@41063aPcEXb@41066aPcUTbXb@41070aP
bRXb@41073cYTbXb@41076aPeNBITbXb@41080aPbEXb@41083aPdATbXb@41087aPcOTbXb@41091aPcUTbXb@41095aPbRX
b@41098cYTbXb@41101aPbRXb@41104eHMITbXb@41107aPbEXb@41110aPdATbXb@41114aPcUOXb@41117aPdOTbXb@41121
aPcUTbXb@41125aPbRXb@41128cYXb@41130aPbRXb@41133eMITbXb@41136aPbEXb@41139aPdATbXb@41143aPcUOTbX
b@41147aPdOTbXb@41151aPcEXb@41154bUTbXb@41157aPbRXb@41160cYTbXb@41163aPdFITbXb@41167aPcATbXb@41171
aPcOXb@41174aPcUTbXb@41178aPbRXb@41181cYTbXb@41184aPdVITbXb@41188aPbETbXb@41192aPdATbXb@41196aPcOT
bXb@41200aPcEXbPcUTbXb@41206aPbRXb@41209cYTbXb@41212aPbRXb@41215dDITbXb@41218aPbEXb@41221aPdATbX
b@41225aPcUOXb@41228cOTbXb@41231aPcEXb@41234aPcUTbXb@41238aPbRXb@41241dTITbXb@41244aPbEXb@41247aP
dATbXb@41251aPcUOTbXb@41255aPdOTbXb@41259aPcEXb@41262aPcUTbXb@41266aPbRXb@41269dDDITbXb@41272aPbEX
b@41275aPdATbXb@41279aPcUOXb@41282aPdOTbXb@41286aPcEXb@41289aPcUTbXb@41293aPbRXb@41296eNDITbX
b@41299aPbEXb@41302cATbXb@41305aPcOTbXb@41309aPcEXb@41312aPcUTbXb@41316aPbRXb@41319eHNITbXb@41322
aPbETbXb@41326aPdATbXb@41330aPcUOXb@41333cOTbXbPcEXb@41338aPcUTeNITbXb@41343aPbEXb@41346aPdAX
b@41349aPcUOXb@41352aPdOTbXb@41356aPcEXb@41359aPcUTbXb@41363aPbRXb@41366dHLITbXb@41369aPbEXb@41372
aPdATbXb@41376aPcUOXb@41379aPdOXb@41382aPcEXb@41385aPcUTbXb@41389aPbRXb@41392cYTbXb@41395aPbRX
b@41398eLITbXb@41401aPbETbXb@41405aPdATbXb@41409aPcUOTbXb@41413aPdOTbXb@41417aPcEXb@41420aPcUTbX
b@41424aPbRXb@41427cYTbXb@41430aPbRXb@41433dGITbXb@41436aPbETbXb@41440aPdATbXb@41444aPcUOTbX
b@41448aPdOTbXb@41452aPcETbXb@41456aPcUTbXb@41460aPbRXb@41463dKITbXb@41466aPbEXb@41469aPdATbX
b@41473aPcUOXb@41476aPdOTbXb@41480aPcETbXb@41484aPcUTbXb@41488aPbRXb@41491dGGITbXb@41494aEXb@41496
aPdATbXb@41500aPcUOTbXb@41504aPdOTbXb@41508aPcETbXb@41512aPcUTbXb@41516aPbRXb@41519eMGIEXb@41521
cATbXb@41524aPcUOXb@41527aPdOTbXb@41531aPcEXb@41534aPcUTbXb@41538aPbRXb@41541eHXITbXb@41544aPbETbX
b@41548aPdATbXb@41552aPcUOTbXb@41556aPdOTbXb@41560aPcEXb@41563aPeNGIEXb@41566aPdATbXb@41570aPcUOT
bXb@41574cOTbXb@41577aPcEXb@41580aPeHITbEXb@41584cATbXb@41587aPcUOTbXb@41591aPdOTbXb@41595aPcEX
b@41598aPdWATbXb@41602aPcUOXb@41605aPdOXb@41608aPcEXb@41611aPdZITbXb@41615aPbEXb@41618aPdATbX
b@41622aPcUOXb@41625aPdOTbXb@41629aPcEXb@41632aPcUTbXb@41636aPbRXb@41639cYTbXb@41642aPbRXb@41645
dCITbXb@41648aPbETbXb@41652aPdATbXb@41656aPcUOXb@41659aPdOTbXb@41663aPcEXb@41666aPcUTbXb@41670aP
bRXb@41673cYTbXb@41676aPbRXb@41679dZZITbXb@41682aPbETbXb@41686aPdATbXb@41690aPcOXb@41693aPcEX
b@41696aPcUXb@41699aPbRXb@41702cYTbXb@41705aPbRXb@41708eNZITbXb@41711aPbEXb@41714aPdATbXb@41718aP
cUOXb@41721cOXbPcEXb@41725bUXb@41727aPbRXb@41730cYTbXb@41733aPbRXb@41736eSITbXb@41739aPbEXb@41742
aPdATbXb@41746aPcUOXb@41749aPdOTbXb@41753aPcEXb@41756aPcUTbXb@41760aPbRXb@41763cYTbXb@41766aPbRX
b@41769cSITbXb@41772aPbEXb@41775aPdATbXb@41779aPcOTbXb@41783aPcEXb@41786aPcUTbXb@41790aPcYTbX
b@41794aPbRXb@41797eZHATbXb@41800aPcUOXb@41803aPdOTbXb@41807aPcETbXb@41811aPcUTbXb@41815aPbRX
b@41818cYTbXb@41821aPbRXb@41824eCHATbXb@41827aPcUOTbXb@41831aPdOTbXb@41835aPcETbXb@41839aPcUX
b@41842aPbRXb@41845cYTbXb@41848aPbRXb@41851eRRAXb@41853bUOXb@41855cOTbXb@41858aPcETbXb@41862aPcUT
bXb@41866aPbRXb@41869cYTbXb@41872aPbRXb@41875eNRATbXb@41878aPcOXb@41881aPcETbXb@41885aPcUTbX
b@41889aPbRXb@41892cYTbXb@41895aPbRXb@41898eSHATbXb@41901aPcUOXb@41904aPdOTbXb@41908aPcETbXb@41912
aPcUTbXb@41916aPbRXb@41919cYTbXb@41922aPbRXb@41925eRATbXb@41928aPcUOXb@41931aPdOTbXb@41935aPcEX
b@41938aPcUTbXb@41942aPbRXb@41945cYTbXb@41948aPbRXb@41951dJITbXb@41954aPbETbXb@41958aPdUOTbX
b@41962aPdOTbXb@41966aPcUTbXb@41970aPbRXb@41973cYTbXb@41976aPbRXb@41979dQITbXb@41982aPbETbXb@41986
aPdUOTbXb@41990aPdOTbXb@41994aPcUTbXb@41998aPbRXb@42001cYTbXb@42004aPbRXb@42007dJJITbXb@42010aPbET
bXb@42014aPdUOXb@42017aPdOTbXb@42021aPcUTbXb@42025aPbRXb@42028cYTbXb@42031aPeNJITbXb@42035aPbETbX
b@42039aPdUOXb@42042cOTbXb@42045aPcUXb@42048aPbRXb@42051cYTbXb@42054aPbRXb@42057dYITbXb@42060aPbET
bXb@42064aPdUOXb@42067aPdOTbXb@42071aPcUTbXb@42075aPeXITbXb@42079aPbETbXb@42083aPdUOXb@42086cOTbX
b@42089aPcYTbXb@42093aPbRXb@42096dYITbXb@42099aPbETbXb@42103aPdUOTbXb@42107aPdOTbXb@42111aPcUTbX
b@42115aPbRXb@42118cYTbXb@42121aPbRXb@42124mRADICAL QOT@42128dLIcKITdNYIPeCYPdSSIdGGOPdEPdMIcHXIT
eLYRdBBUTeMOPdYOcPUTdHXUOeTATdGAcZUPdCYTdDDUReBURdGGUOeNYOPeTUcOPcJJUTeZOTdPYTdHMOdYITdVURdSHYdVEP
dZAcJOcNZUPeJJYdGOTdJJIEeWOcDUcSHUReLIEdCYbUOPdIPdHXOPeSHATeZURdSHOPeCHEdZZIETfNBIEeKE
nLISU LETTER BA@42192cPAbHAdDAcTAbHAdGAcKAbHAdJAcCAbHAdDZAdTSAbHAeMAcNAcLAcSAcZHAcAcNGAdHAcXAcHHA
dFAcWAcSHAdYAcGHAdAaEcEaUcIbObUaEbHcOEcTONE MYA TIgNA POfMYA CYAdBOcNAcJEUtPUNCTUATION COMMA
fFULL STOPzbVAI SYLLABLE EEaNdHEEdWEEaNePEEdBHEEdEEdMBEEeKPEEeMGBEEfGBEEeFEEdVEEdTEEcHEEeDHEEcHEE
fLEEdREEdDEEdNDEEeSEEcHEEeZEEcHEEeCEEdJEEdNJEEeYEEdKEEdNGGEEfGEEdMEEdNEEcYEEeIaNcHIaNdWIaNdPIcBHI
cIcMBIdKPIdMGBIeGBIdFIcVIcTIbHIdDHIbHIeLIcRIcDIcNDIdSIbHIdZIbHIdCIcJIcNJIdYIcKIcNGGIeGIcMIcNIbYIdA
aNcNGANeHAaNdWAaNdPAcBHAcAcMBAdKPAaNeMGBAeGBAdFAcVAcTAbHAdDHAbHAeLAcRAcDAcNDAdSAbHAdZAbHAdCAcJA
cNJAdYAcKAaNdNGGAeGAcMAcNAbYAdOOaNdHOOdWOOaNePOOdBHOOdOOdMBOOeKPOOeMGBOOfGBOOeFOOdVOOdTOOcHOOeDHOO
cHOOfLOOdROOdDOOdNDOOeSOOcHOOeZOOcHOOeCOOdJOOdNJOOeYOOdKOOdNGGOOfGOOdMOOdNOOcYOOeUaNcHUaNdWUaNdPU
cBHUcUcMBUdKPUdMGBUeGBUdFUcVUcTUbHUdDHUbHUeLUcRUcDUcNDUdSUbHUdZUbHUdCUcJUcNJUdYUcKUcNGGUeGUcMUcNU
bYUdOaNcNGONeHOaNdWOaNdPOcBHOcOcMBOdKPOdMGBOeGBOaNeFOcVOcTObHOdDHObHOeLOcROcDOcNDOdSObHOdZObHOdCO
cJOcNJOdYOcKOcNGGOeGOcMOcNObYOdEaNcNGENeHEaNdWEaNdPEcBHEcEcMBEdKPEaNeMGBEeGBEaNeFEcVEcTEbHEdDHEbHE
eLEcREcDEcNDEdSEbHEdZEbHEdCEcJEcNJEdYEcKEcNGGEaNfGEaNdMEcNEbYEcGcLENGTHENERtCOMMAfFULL STOP
jQUESTION MARKnSYLLABLE NDOLE FAcKAcSOOqMBOL FEENGfKEENGfTINGeNIIdBANGeFAAdTAAdDANGdOONGfKUNGeTONG
eDO-OeJONGlDIGIT ZEROeONEdTWOcHREEfFOURdIVEeSIXcEVENfEIGHTfNINEkSYLLABLE NDOLE MAcDO
vCYRILLIC CAPITAL LETTER ZEMLYA@42560vSMALL LETTER ZEMLYAtCAPITAL LETTER DZELOuSMALL LETTER DZELO
sCAPITAL LETTER REVERSED DZEzcSMALL LETTER REVERSED DZEzaCAPITAL LETTER IOTAtSMALL LETTER IOTA
rCAPITAL LETTER DJERVuSMALL LETTER DJERVsCAPITAL LETTER MONOGRAPH UKzcSMALL LETTER MONOGRAPH UK
zaCAPITAL LETTER BROAD OMEGAzbSMALL LETTER BROAD OMEGAyCAPITAL LETTER NEUTRAL YER
zbSMALL LETTER NEUTRAL YERyCAPITAL LETTER YERU WITH BACK YERziSMALL LETTER YERU WITH BACK YER
zgCAPITAL LETTER IOTIFIED YATzcSMALL LETTER IOTIFIED YATzaCAPITAL LETTER REVERSED YU
zbSMALL LETTER REVERSED YUyCAPITAL LETTER IOTIFIED AzaSMALL LETTER IOTIFIED A
xCAPITAL LETTER CLOSED LITTLE YUSzhSMALL LETTER CLOSED LITTLE YUSzfCAPITAL LETTER BLENDED YUS
zbSMALL LETTER BLENDED YUSyCAPITAL LETTER IOTIFIED CLOSED LITTLE YUS
zqSMALL LETTER IOTIFIED CLOSED LITTLE YUSzoCAPITAL LETTER YNrSMALL LETTER YN
pCAPITAL LETTER REVERSED TSEzcSMALL LETTER REVERSED TSEzaCAPITAL LETTER SOFT DE
wSMALL LETTER SOFT DEuCAPITAL LETTER SOFT ELwSMALL LETTER SOFT ELuCAPITAL LETTER SOFT EM
wSMALL LETTER SOFT EMuCAPITAL LETTER MONOCULAR OzbSMALL LETTER MONOCULAR O
yCAPITAL LETTER BINOCULAR OzbSMALL LETTER BINOCULAR OyCAPITAL LETTER DOUBLE MONOCULAR O
ziSMALL LETTER DOUBLE MONOCULAR OzgLETTER MULTIOCULAR OzdOMBINING CYRILLIC VZMETfTEN MILLIONS SIGN
rHUNDRED MILLIONS SIGNvTHOUSAND MILLIONS SIGNzqSLAVONIC ASTERISK
rCOMBINING CYRILLIC LETTER UKRAINIAN IEmIbYIcUbHARD SIGNjYERUeSOFT SIGNjOMEGAmKAVYKAgPAYEROK
zaYRILLIC KAVYKAgPAYEROKhCAPITAL LETTER DWEsSMALL LETTER DWEqCAPITAL LETTER DZWEtSMALL LETTER DZWE
rCAPITAL LETTER ZHWEtSMALL LETTER ZHWErCAPITAL LETTER CCHEtSMALL LETTER CCHErCAPITAL LETTER DZZE
tSMALL LETTER DZZErCAPITAL LETTER TE WITH MIDDLE HOOKzjSMALL LETTER TE WITH MIDDLE HOOK
zhCAPITAL LETTER TWEsSMALL LETTER TWEqCAPITAL LETTER TSWEtSMALL LETTER TSWErCAPITAL LETTER TSSE
tSMALL LETTER TSSErCAPITAL LETTER TCHEtSMALL LETTER TCHErCAPITAL LETTER HWEsSMALL LETTER HWE
qCAPITAL LETTER SHWEtSMALL LETTER SHWErCAPITAL LETTER DOUBLE OxSMALL LETTER DOUBLE O
vCAPITAL LETTER CROSSED OySMALL LETTER CROSSED OzgMODIFIER LETTER CYRILLIC HARD SIGNjSOFT SIGN
zjCOMBINING CYRILLIC LETTER EFcIOTIFIED EzlBAMUM LETTER AbKAcUbKUcEEcREEdTAEdObNYIdIbLAcPAcRIIbEE
eLEEEEfMEEEEfTAAdNDAAdJAEMfMbSUUdMUcSHIIdIbHEUXeEUXeKYEEdETdNUAEc@42685bJUAEfYOQdSHUdYUQcAcNSHA
eKEUXePEUXeNJEEdTEEePUEdWUEdPEEdFEEdRUcLUcMIcNIcREUXdAEdKENdNGKWAENfGAcAdSHOdPUAEeFUbOMdWAcNAcLI
cPIcLOQdKOcMBENeRENdMENcAcTIcKIcMObBAAeTETdKPAdTENdNTUUeSAMBAfFAAMAEgKOVUUdGHOM
nCOMBINING MARK KOQNDONhTUKWENTISyNJAEMLIhFULL STOPjCOLONdMMAfSEMICOLONjQUESTION MARK
tMODIFIER LETTER CHINESE TONE YIN PING@42752hANG PINGiIN SHANGiANG SHANGjIN QUfANG QUgIN RUfANG RU
uEXTRA-HIGH DOTTED TONE BARzbHIGH DOTTED TONE BARuMID DOTTED TONE BARtLOW DOTTED TONE BAR
tEXTRA-LOW DOTTED TONE BARtHIGH DOTTED LEFT-STEM TONE BARzlHIGH DOTTED LEFT-STEM TONE BAR
zfMID DOTTED LEFT-STEM TONE BARzeLOW DOTTED LEFT-STEM TONE BAR
zeEXTRA-LOW DOTTED LEFT-STEM TONE BARzeHIGH LEFT-STEM TONE BARzeHIGH LEFT-STEM TONE BAR
xMID LEFT-STEM TONE BARwLOW LEFT-STEM TONE BARwEXTRA-LOW LEFT-STEM TONE BARzdDOT VERTICAL BAR
mSLASHfHORIZONTAL BARsLOWER RIGHT CORNER ANGLEyRAISED UP ARROWiDOWN ARROWkEXCLAMATION MARK
qINVERTED EXCLAMATION MARKzhLOW INVERTED EXCLAMATION MARKzeSTRESS AND HIGH TONEjLOW TONE
zkLATIN CAPITAL LETTER EGYPTOLOGICAL ALEFziSMALL LETTER EGYPTOLOGICAL ALEF
zgCAPITAL LETTER EGYPTOLOGICAL AINzhSMALL LETTER EGYPTOLOGICAL AINzfCAPITAL LETTER HENG
tSMALL LETTER HENGrCAPITAL LETTER TZrSMALL LETTER TZpCAPITAL LETTER TRESILLOxSMALL LETTER TRESILLO
vCAPITAL LETTER CUATRILLOySMALL LETTER CUATRILLOwCAPITAL LETTER CUATRILLO WITH COMMA
zkSMALL LETTER CUATRILLO WITH COMMAziLETTER SMALL CAPITAL FbSwCAPITAL LETTER AArSMALL LETTER AA
pCAPITAL LETTER AOrSMALL LETTER AOpCAPITAL LETTER AUrSMALL LETTER AUpCAPITAL LETTER AV
rSMALL LETTER AVpCAPITAL LETTER AV WITH HORIZONTAL BARzmSMALL LETTER AV WITH HORIZONTAL BAR
zkCAPITAL LETTER AYrSMALL LETTER AYpCAPITAL LETTER REVERSED C WITH DOT
zjSMALL LETTER REVERSED C WITH DOTzhCAPITAL LETTER K WITH STROKEzdSMALL LETTER K WITH STROKE
zbCAPITAL LETTER K WITH DIAGONAL STROKEzmSMALL LETTER K WITH DIAGONAL STROKE
zkCAPITAL LETTER K WITH STROKE AND DIAGONAL STROKEzxSMALL LETTER K WITH STROKE AND DIAGONAL STROKE
zvCAPITAL LETTER BROKEN LxSMALL LETTER BROKEN LvCAPITAL LETTER L WITH HIGH STROKE
ziSMALL LETTER L WITH HIGH STROKEzgCAPITAL LETTER O WITH LONG STROKE OVERLAY
zqSMALL LETTER O WITH LONG STROKE OVERLAYzoCAPITAL LETTER O WITH LOOPzbSMALL LETTER O WITH LOOP
yCAPITAL LETTER OOrSMALL LETTER OOpCAPITAL LETTER P WITH STROKE THROUGH DESCENDER
zvSMALL LETTER P WITH STROKE THROUGH DESCENDERztCAPITAL LETTER P WITH FLOURISH
zfSMALL LETTER P WITH FLOURISHzdCAPITAL LETTER P WITH SQUIRREL TAIL
zkSMALL LETTER P WITH SQUIRREL TAILziCAPITAL LETTER Q WITH STROKE THROUGH DESCENDER
zvSMALL LETTER Q WITH STROKE THROUGH DESCENDERztCAPITAL LETTER Q WITH DIAGONAL STROKE
zmSMALL LETTER Q WITH DIAGONAL STROKEzkCAPITAL LETTER R ROTUNDAySMALL LETTER R ROTUNDA
wCAPITAL LETTER RUM ROTUNDAzbSMALL LETTER RUM ROTUNDAyCAPITAL LETTER V WITH DIAGONAL STROKE
zmSMALL LETTER V WITH DIAGONAL STROKEzkCAPITAL LETTER VYrSMALL LETTER VY
pCAPITAL LETTER VISIGOTHIC ZzcSMALL LETTER VISIGOTHIC ZzaCAPITAL LETTER THORN WITH STROKE
zhSMALL LETTER THORN WITH STROKEzfCAPITAL LETTER THORN WITH STROKE THROUGH DESCENDER
zzaSMALL LETTER THORN WITH STROKE THROUGH DESCENDERzxCAPITAL LETTER VENDtSMALL LETTER VEND
rCAPITAL LETTER ETrSMALL LETTER ETpCAPITAL LETTER ISrSMALL LETTER ISpCAPITAL LETTER CON
sSMALL LETTER CONwMODIFIER LETTER USsLATIN SMALL LETTER DUMdLUMdMUMdNUMdRUM
qLETTER SMALL CAPITAL RUMySMALL LETTER TUMdUMpCAPITAL LETTER INSULAR DySMALL LETTER INSULAR D
wCAPITAL LETTER INSULAR FySMALL LETTER INSULAR FwCAPITAL LETTER INSULAR GjTURNED INSULAR G
zgSMALL LETTER TURNED INSULAR GzeCAPITAL LETTER TURNED LxSMALL LETTER TURNED L
vCAPITAL LETTER INSULAR RySMALL LETTER INSULAR RwCAPITAL LETTER INSULAR SySMALL LETTER INSULAR S
wCAPITAL LETTER INSULAR TySMALL LETTER INSULAR TzdMODIFIER LETTER LOW CIRCUMFLEX ACCENTvCOLON
fSHORT EQUALS SIGNziLATIN CAPITAL LETTER SALTILLOxSMALL LETTER SALTILLOvCAPITAL LETTER TURNED H
xSMALL LETTER L WITH RETROFLEX HOOK AND BELTzsLETTER SINOLOGICAL DOT
wCAPITAL LETTER N WITH DESCENDERzgSMALL LETTER N WITH DESCENDERzeCAPITAL LETTER C WITH BAR
zaSMALL LETTER C WITH BARdPALATAL HOOKtH WITH PALATAL HOOKzhCAPITAL LETTER B WITH FLOURISH
zfSMALL LETTER B WITH FLOURISHzdCAPITAL LETTER F WITH STROKEzdSMALL LETTER F WITH STROKE
zbCAPITAL LETTER VOLAPUK AEzaSMALL LETTER VOLAPUK AExCAPITAL LETTER VOLAPUK OE
zaSMALL LETTER VOLAPUK OExCAPITAL LETTER VOLAPUK UEzaSMALL LETTER VOLAPUK UE
xCAPITAL LETTER G WITH OBLIQUE STROKEzlSMALL LETTER G WITH OBLIQUE STROKE
zjCAPITAL LETTER K WITH OBLIQUE STROKEzlSMALL LETTER K WITH OBLIQUE STROKE
zjCAPITAL LETTER N WITH OBLIQUE STROKEzlSMALL LETTER N WITH OBLIQUE STROKE
zjCAPITAL LETTER R WITH OBLIQUE STROKEzlSMALL LETTER R WITH OBLIQUE STROKE
zjCAPITAL LETTER S WITH OBLIQUE STROKEzlSMALL LETTER S WITH OBLIQUE STROKE
zjCAPITAL LETTER H WITH HOOKlREVERSED OPEN EpSCRIPT GiL WITH BELTlSMALL CAPITAL I
zfLETTER SMALL CAPITAL QwCAPITAL LETTER TURNED KbTiJ WITH CROSSED-TAILtCHIdBETAtSMALL LETTER BETA
rCAPITAL LETTER OMEGAuSMALL LETTER OMEGAsCAPITAL LETTER U WITH STROKEzdSMALL LETTER U WITH STROKE
zbCAPITAL LETTER GLOTTAL AySMALL LETTER GLOTTAL AwCAPITAL LETTER GLOTTAL IySMALL LETTER GLOTTAL I
wCAPITAL LETTER GLOTTAL UySMALL LETTER GLOTTAL UwCAPITAL LETTER OLD POLISH O
zcSMALL LETTER OLD POLISH OzaCAPITAL LETTER ANGLICANA WzbSMALL LETTER ANGLICANA W
yCAPITAL LETTER C WITH PALATAL HOOKtS WITH HOOKlZ WITH PALATAL HOOKtD WITH SHORT STROKE OVERLAY
zrSMALL LETTER D WITH SHORT STROKE OVERLAYzpCAPITAL LETTER S WITH SHORT STROKE OVERLAY
zrSMALL LETTER S WITH SHORT STROKE OVERLAYzpCAPITAL LETTER CLOSED INSULAR G@42960
zgSMALL LETTER CLOSED INSULAR GqDOUBLE THORN@42963fWYNN@42965yCAPITAL LETTER MIDDLE SCOTS S
zeSMALL LETTER MIDDLE SCOTS SzcCAPITAL LETTER SIGMOID SySMALL LETTER SIGMOID S
zdMODIFIER LETTER CAPITAL C@42994bFbQzaLATIN CAPITAL LETTER REVERSED HALF H
zfSMALL LETTER REVERSED HALF HzdEPIGRAPHIC LETTER SIDEWAYS I
zjMODIFIER LETTER CAPITAL H WITH STROKEvSMALL LIGATURE OEziLATIN LETTER SMALL CAPITAL TURNED M
zeEPIGRAPHIC LETTER REVERSED FbPkINVERTED Mj LONGAhARCHAIC MziSYLOTI NAGRI LETTER AbI
iSIGN DVISVARAnLETTER UbEbOiSIGN HASANTAmLETTER KObHOdGObHOkSIGN ANUSVARAnLETTER CObHOdJObHOdTTO
bHOeDDObHOeTObHOdDObHOdNOcPObHOdBObHOdMOcROcLOcRROdSOcHOjVOWEL SIGN AbIbUbEbOOnPOETRY MARK-1b2b3b4
nSIGN ALTERNATE HASANTAzkNORTH INDIC FRACTION ONE QUARTER@43056hHALFiTHREE QUARTERSoONE SIXTEENTH
jEIGHTHkTHREE SIXTEENTHSzaQUARTER MARKmPLACEHOLDER MARKqRUPEE MARKkQUANTITY MARK
zaPHAGS-PA LETTER KA@43072bHAdGAcNGAdCAbHAdJAcNYAdTAbHAdDAcNAcPAbHAdBAcMAcTSAbHAeDZAdWAcZHAcA
cSMALL AhYAcRAcLAcSHAcAcHAcAbIbUbEbObQAcXAcFAcGGAdEEjSUBJOINED LETTER WAcYAtLETTER TTAbHAeDDAdNNA
dALTERNATE YAmVOICELESS SHAiD HAjASPIRATED FAtSUBJOINED LETTER RArPERFIXED LETTER RA
uLETTER CANDRABINDUsSINGLE HEAD MARKqDOUBLE HEAD MARKqMARK SHADeDOUBLE SHAD
zaSAURASHTRA SIGN ANUSVARA@43136iVISARGAmLETTER AaAcIaIcUaUcVOCALIC RaRcLaLkEaEcAIcOaOcAUcKAbHAdGA
bHAdNGAdCAbHAdJAbHAdNYAdTTAbHAeDDAbHAeNNAdTAbHAdDAbHAdNAcPAbHAdBAbHAdMAcYAcRAcLAcVAcSHAcSAcAcHA
cLLAkCONSONANT SIGN HAARUuVOWEL SIGN AAcIaIcUaUcVOCALIC RaRcLaLkEaEcAIcOaOcAUnSIGN VIRAMA
gCANDRABINDUqDANDA@43214eOUBLE DANDAlIGIT ZEROeONEdTWOcHREEfFOURdIVEeSIXcEVENfEIGHTfNINE
vCOMBINING DEVANAGARI DIGIT ZERO@43232eONEdTWOcHREEfFOURdIVEeSIXcEVENfEIGHTfNINEkLETTER AbUbKAcNA
cPAcRAcVIjSIGN AVAGRAHAzjDEVANAGARI SIGN SPACING CANDRABINDUtCANDRABINDU VIRAMA
sDOUBLE CANDRABINDU VIRAMAzaCANDRABINDU TWOcHREEfAVAGRAHAuPUSHPIKAnGAP FILLERkCARETfHEADSTROKE
kSIGN SIDDHAMmJAIN OMhLETTER AYjVOWEL SIGN AYyKAYAH LI DIGIT ZEROeONEdTWOcHREEfFOURdIVEeSIXcEVEN
fEIGHTfNINEkLETTER KAbHAdGAcNGAdSAbHAdZAcNYAdTAcHTAdNAcPAbHAdMAcDAcBAcRAcYAcLAcWAcTHAdHAcVAcCAcA
bOEcIbOOjVOWEL UEcEbUbEEcOhTONE PLOPHUgCALYAa PLOPHUrSIGN CWIdSHYAsREJANG LETTER KAcGAcNGAdTAcDA
cNAcPAcBAcMAcCAcJAcNYAdSAcRAcLAcYAcWAcHAcMBAdNGGAdDAcYJAeAiVOWEL SIGN IbUbEbAIcObAUcEUbA
nCONSONANT SIGN NGb@43344bRbHqVIRAMAgSECTION MARK@43359tHANGUL CHOSEONG TIKEUT-MIEUMfPIEUPfSIOS
eCIEUCmRIEUL-KIYEOKgSSANGKIYEOKlTIKEUTgSSANGTIKEUTlMIEUMfPIEUPfSSANGPIEUPkKAPYEOUNPIEUPnSIOSeCIEUC
fKHIEUKHnMIEUM-KIYEOKgTIKEUTgSIOSkPIEUP-SIOS-THIEUTHmKHIEUKHhHIEUHlSSANGSIOS-PIEUPpIEUNG-RIEUL
fHIEUHlSSANGCIEUC-HIEUHlTHIEUTHmPHIEUPH-HIEUHnHIEUH-SIOSkSSANGYEORINHIEUH
zhJAVANESE SIGN PANYANGGA@43392jCECAKfLAYARfWIGNYANmLETTER AbI KAWIf@43398aIcUbPA CEREKiNGA LELET
a RASWADIrEbAIcObKAa SASAKfMURDAiGAa MURDAiNGAdCAa MURDAiJAcNYA MURDAjJA MAHAPRANAmNYAdTTA
a MAHAPRANAnDDAa MAHAPRANAnNA MURDAiTAa MURDAiDAa MAHAPRANAmNAcPAa MURDAiBAa MURDAiMAcYAcRAa AGUNG
iLAcWAcSA MURDAeAHAPRANAk@43441cHAjSIGN CECAK TELUpVOWEL SIGN TARUNGfOLONGgWULUa MELIKkSUKU
a MENDUTlTALINGgDIRGA MUREkPEPETqCONSONANT SIGN KERETfPENGKALhCAKRAuPANGKONhLEFT RERENGGAN
oRIGHT RERENGGANpPADA ANDAPfMADYAfLUHURfWINDUfPANGKAThLINGSAfUNGSIgADEGa ADEGjPISELEH
mTURNED PADA PISELEHtPANGRANGKEP@43471lDIGIT ZEROeONEdTWOcHREEfFOURdIVEeSIXcEVENfEIGHTfNINE
kPADA TIRTA TUMETES@43486nISEN-ISENxMYANMAR LETTER SHAN GHAdCHAdJHAdNNAdBHApSIGN SHAN SAW
nMODIFIER LETTER SHAN REDUPLICATIONzjLETTER TAI LAING NYAdFAcGAbHAdJAbHAdDDAbHAeNNA
uTAI LAING DIGIT ZEROeONEdTWOcHREEfFOURdIVEeSIXcEVENfEIGHTfNINEuLETTER TAI LAING LLAdDAbHAdBAbHA
zdCHAM LETTER A@43520bIbUbEbAIcObKAbHAdGAbHAdNGUEcAdCHAbHAeJAbHAdNHUEcAbJAeTAbHAdDAbHAdNUEcAcDDA
dPAbPAcHAdBAbHAdMUEcAcBBAdYAcRAcLAcVAcSSAcAcHAjVOWEL SIGN AAcIaIcEIcUbOEb@43567bAIbUcUE
nCONSONANT SIGN YAcRAcLAcWArLETTER FINAL K@43584bGbNGpCONSONANT SIGN FINAL NGxLETTER FINAL CHcTbN
bPbYbRbLbSSpCONSONANT SIGN FINAL MbHwDIGIT ZERO@43600eONEdTWOcHREEfFOURdIVEeSIXcEVENfEIGHTfNINE
kPUNCTUATION SPIRAL@43612gDANDAeOUBLE DANDAmTRIPLE DANDAzeMYANMAR LETTER KHAMTI GAcCAbHAdJAbHAdNYA
dTTAbHAeDDAbHAdHAdNAcSAcHAbHAdFAqMODIFIER LETTER KHAMTI REDUPLICATIONzlLETTER KHAMTI XAcZAcRA
pOGOGRAM KHAMTI OAYdQNcHMsSYMBOL AITON EXCLAMATIONlONEdTWOqLETTER AITON RApSIGN PAO KAREN TONE
oTAI LAING TONE-2b5vLETTER SHWE PALAUNG CHAdSHAzgTAI VIET LETTER LOW KOgHIGH KOhLOW KHOhHIGH KHO
iLOW KHHOiHIGH KHHOjLOW GOgHIGH GOhLOW NGOhHIGH NGOiLOW COgHIGH COhLOW CHOhHIGH CHOiLOW SOgHIGH SO
hLOW NYOhHIGH NYOiLOW DOgHIGH DOhLOW TOgHIGH TOhLOW THOhHIGH THOiLOW NOgHIGH NOhLOW BOgHIGH BO
hLOW POgHIGH POhLOW PHOhHIGH PHOiLOW FOgHIGH FOhLOW MOgHIGH MOhLOW YOgHIGH YOhLOW ROgHIGH RO
hLOW LOgHIGH LOhLOW VOgHIGH VOhLOW HOgHIGH HOhLOW OfHIGH OnMAI KANGiVOWEL AAcIbUEb@43700bEbO
hMAI KHITiVOWEL IAcUEAcAcAUEcYbNbMiTONE MAI EKcNUENGfTHOdSONGnSYMBOL KON@43739dNUENGfSAMdHO HOI
gKOI KOIxMEETEI MAYEK LETTER EbObCHAdNYAdTTAbHAeDDAbHAeNNAdSHAcSAkVOWEL SIGN IIcUUcAAIcUbAU
oCHEIKHANiAHANG KHUDAMlNJIeSYLLABLE REPETITION MARKyWORD REPETITION MARKuVOWEL SIGN VISARGArIRAMA
tETHIOPIC SYLLABLE TTHU@43777bIbAAcEEb@43781bOeDDHU@43785bIbAAcEEb@43789bOdZU@43793bIbAAcEEb@43797
bOdCCHHA@43808bUbIbAAcEEb@43813bOfBBA@43816bUbIbAAcEEb@43821bO
vLATIN SMALL LETTER BARRED ALPHA@43824mA REVERSED-SCHWAqBLACKLETTER EmARRED EiE WITH FLOURISH
pLENIS FhSCRIPT G WITH CROSSED-TAILzbL WITH INVERTED LAZY SpDOUBLE MIDDLE TILDEtMIDDLE RING
sM WITH CROSSED-TAILtN WITH CROSSED-TAILtENG WITH CROSSED-TAILvBLACKLETTER Oa WITH STROKE
zaOPEN O WITH STROKEsINVERTED OElTURNED OE WITH STROKEgHORIZONTAL STROKEy OPEN-Oa WITH STROKE
zcSTIRRUP RwLETTER SMALL CAPITAL R WITH RIGHT LEGzmSMALL LETTER R WITHOUT HANDLEqDOUBLE R
iR WITH CROSSED-TAILtDOUBLE R WITH CROSSED-TAILzbSCRIPT Ra WITH RINGsBASELINE ESH
mU WITH SHORT RIGHT LEGuBAR WITH SHORT RIGHT LEGzaIcTURNED UIjU WITH LEFT HOOKqCHI
a WITH LOW RIGHT RINGkLEFT SERIFxX WITH LOW RIGHT RINGmNG LEFT LEGa AND LOW RIGHT RINGsWITH SERIF
zgY WITH SHORT RIGHT LEGzqMODIFIER BREVE WITH INVERTED BREVEzaLETTER SMALL HENG
eL WITH INVERTED LAZY SpMIDDLE TILDEtU WITH LEFT HOOKznLATIN SMALL LETTER SAKHA YATjIOTIFIED E
kOPEN OEhUOcINVERTED ALPHAziGREEK LETTER SMALL CAPITAL OMEGA
zhLATIN SMALL LETTER DZ DIGRAPH WITH RETROFLEX HOOKzfTS DIGRAPH WITH RETROFLEX HOOK
zeURNED R WITH MIDDLE TILDEzuMODIFIER LETTER SMALL TURNED WoLEFT TACKjRIGHT TACK
zbCHEROKEE SMALL LETTER A@43888bEbIbObUbVbGAcKAcGEbIbObUbVcHAbEbIbObUbVcLAbEbIbObUbVcMAbEbIbObUcNA
cHNAdNAHcEbIbObUbVcQUAbEbIbObUbVdSAb@43933aEbIbObUbVcDAcTAcDEcTEcDIcTIcDObUbVbLAdTLAbEbIbObUbVcSA
bEbIbObUbVdWAbEbIbObUbVcYAyMEETEI MAYEK LETTER KOKdSAMdLAIdMITdPAcNAcCHILeTILdKHOUeNGOUeTHOUeWAI
dYANGeHUKdUNcIbPHAMeATIYAfGOKdJHAMeRAIdBAcJILdDILdGHOUeDHOUeBHAMeKOK LONSUMkLAI LONSUMkMIT LONSUM
kPA LONSUMjNA LONSUMjTIL LONSUMkNGOU LONSUMlI LONSUMpVOWEL SIGN ONAPeINAPeANAPeYENAPfSOUNAPgUNAP
eCHEINAPhNUNGpCHEIKHEIiLUM IYEKiAPUN IYEKjDIGIT ZERO@44016eONEdTWOcHREEfFOURdIVEeSIXcEVENfEIGHT
fNINExHANGUL JUNGSEONG O-YEO@55216dO-IfYO-AaEcEOfU-YEOdI-IfYU-AEcOeEU-AbEOb@55227bOeI-YA-OcEcEO
b@55232cO-IdYObUcIdARAEA-AbEqONGSEONG NIEUN-RIEUL@55243fCHIEUCHnSSANGTIKEUTa-PIEUPrTIKEUT-PIEUP
fSIOSa-KIYEOKlCIEUCeHIEUCHhTHIEUTHoRIEUL-SSANGKIYEOKlKIYEOK-HIEUHsSSANGRIEUL-KHIEUKH
sRIEUL-MIEUM-HIEUHlPIEUP-TIKEUTgPHIEUPHnYESIEUNGgORINHIEUH-HIEUHxKAPYEOUNRIEULnMIEUM-NIEUN
fSSANGNIEUNqSSANGMIEUMkMIEUM-PIEUP-SIOSkCIEUClPIEUP-TIKEUTgRIEUL-PHIEUPHnMIEUMlSSANGPIEUP
kPIEUP-SIOS-TIKEUTlCIEUCeHIEUCHnSIOS-MIEUMfKAPYEOUNPIEUPrSANGSIOS-KIYEOKgTIKEUTpIOS-PANSIOShCIEUC
eHIEUCHhTHIEUTHhHIEUHkPANSIOS-PIEUPfKAPYEOUNPIEUPvYESIEUNG-MIEUMfHIEUHoCIEUC-PIEUPfSSANGPIEUP
qSSANGCIEUCkPHIEUPH-SIOSeTHIEUTHzhCJK COMPATIBILITY IDEOGRAPH-F900@63744b1b2b3b4b5b6b7b8b9bAbBbCbD
bEbFc10b1b2b3b4b5b6b7b8b9bAbBbCbDbEbFc20b1b2b3b4b5b6b7b8b9bAbBbCbDbEbFc30b1b2b3b4b5b6b7b8b9bAbBbC
bDbEbFc40b1b2b3b4b5b6b7b8b9bAbBbCbDbEbFc50b1b2b3b4b5b6b7b8b9bAbBbCbDbEbFc60b1b2b3b4b5b6b7b8b9bAbB
bCbDbEbFc70b1b2b3b4b5b6b7b8b9bAbBbCbDbEbFc80b1b2b3b4b5b6b7b8b9bAbBbCbDbEbFc90b1b2b3b4b5b6b7b8b9bA
bBbCbDbEbFcA0b1b2b3b4b5b6b7b8b9bAbBbCbDbEbFcB0b1b2b3b4b5b6b7b8b9bAbBbCbDbEbFcC0b1b2b3b4b5b6b7b8b9
bAbBbCbDbEbFcD0b1b2b3b4b5b6b7b8b9bAbBbCbDbEbFcE0b1b2b3b4b5b6b7b8b9bAbBbCbDbEbFcF0b1b2b3b4b5b6b7b8
b9bAbBbCbDbEbFdA00b1b2b3b4b5b6b7b8b9bAbBbCbDbEbFc10b1b2b3b4b5b6b7b8b9bAbBbCbDbEbFc20b1b2b3b4b5b6b7
b8b9bAbBbCbDbEbFc30b1b2b3b4b5b6b7b8b9bAbBbCbDbEbFc40b1b2b3b4b5b6b7b8b9bAbBbCbDbEbFc50b1b2b3b4b5b6
b7b8b9bAbBbCbDbEbFc60b1b2b3b4b5b6b7b8b9bAbBbCbDc70@64112b1b2b3b4b5b6b7b8b9bAbBbCbDbEbFc80b1b2b3b4
b5b6b7b8b9bAbBbCbDbEbFc90b1b2b3b4b5b6b7b8b9bAbBbCbDbEbFcA0b1b2b3b4b5b6b7b8b9bAbBbCbDbEbFcB0b1b2b3
b4b5b6b7b8b9bAbBbCbDbEbFcC0b1b2b3b4b5b6b7b8b9bAbBbCbDbEbFcD0b1b2b3b4b5b6b7b8b9
zhLATIN SMALL LIGATURE FF@64256bIbLbFIbLdLONG S TiSTxARMENIAN SMALL LIGATURE MEN NOW@64275dECHdINI
hVEW NOWhMEN XEHzgHEBREW LETTER YOD WITH HIRIQ@64285vPOINT JUDEO-SPANISH VARIKA
zbLIGATURE YIDDISH YOD YOD PATAHzeETTER ALTERNATIVE AYINqWIDE ALEFeDALETfHEcKAFdLAMEDfFINAL MEM
jRESHeTAViALTERNATIVE PLUS SIGNvSHIN WITH SHIN DOThIN DOThDAGESH AND SHIN DOThIN DOT
zdALEF WITH PATAHfQAMATSgMAPIQpBET WITH DAGESHpGIMEL WITH DAGESHrDALET WITH DAGESHrHE WITH MAPIQ
nVAV WITH DAGESHpZAYIN WITH DAGESHrTET WITH DAGESH@64312pYOD WITH DAGESHpFINAL KAF WITH DAGESH
vKAF WITH DAGESHpLAMED WITH DAGESHrMEM WITH DAGESH@64318pNUN WITH DAGESH@64320pSAMEKH WITH DAGESH
sFINAL PE WITH DAGESH@64323uPE WITH DAGESHoTSADI WITH DAGESH@64326rQOF WITH DAGESH
pRESH WITH DAGESHqSHIN WITH DAGESHqTAV WITH DAGESHpVAV WITH HOLAMoBET WITH RAFEnKAF WITH RAFE
nPE WITH RAFEsIGATURE ALEF LAMEDzbARABIC LETTER ALEF WASLA ISOLATED FORMnFINAL FORM
vBEEH ISOLATED FORMnFINAL FORMkINITIAL FORMmMEDIAL FORMqPEH ISOLATED FORMnFINAL FORMkINITIAL FORM
mMEDIAL FORMpBEHEH ISOLATED FORMnFINAL FORMkINITIAL FORMmMEDIAL FORMrTTEHEH ISOLATED FORM
nFINAL FORMkINITIAL FORMmMEDIAL FORMrEHEH ISOLATED FORMnFINAL FORMkINITIAL FORMmMEDIAL FORM
qTEH ISOLATED FORMnFINAL FORMkINITIAL FORMmMEDIAL FORMqVEH ISOLATED FORMnFINAL FORMkINITIAL FORM
mMEDIAL FORMpPEHEH ISOLATED FORMnFINAL FORMkINITIAL FORMmMEDIAL FORMrDYEH ISOLATED FORMnFINAL FORM
kINITIAL FORMmMEDIAL FORMqNYEH ISOLATED FORMnFINAL FORMkINITIAL FORMmMEDIAL FORM
qTCHEH ISOLATED FORMnFINAL FORMkINITIAL FORMmMEDIAL FORMmEH ISOLATED FORMnFINAL FORMkINITIAL FORM
mMEDIAL FORMtDDAHAL ISOLATED FORMnFINAL FORMqAHAL ISOLATED FORMnFINAL FORMpUL ISOLATED FORM
nFINAL FORMnDAL ISOLATED FORMnFINAL FORMpJEH ISOLATED FORMnFINAL FORMoRREH ISOLATED FORM
nFINAL FORMpKEHEH ISOLATED FORMnFINAL FORMkINITIAL FORMmMEDIAL FORMrGAF ISOLATED FORMnFINAL FORM
kINITIAL FORMmMEDIAL FORMoUEH ISOLATED FORMnFINAL FORMkINITIAL FORMmMEDIAL FORM
qNGOEH ISOLATED FORMnFINAL FORMkINITIAL FORMmMEDIAL FORMqOON GHUNNA ISOLATED FORMnFINAL FORM
wRNOON ISOLATED FORMnFINAL FORMkINITIAL FORMmMEDIAL FORMrHEH WITH YEH ABOVE ISOLATED FORM
nFINAL FORMzaGOAL ISOLATED FORMnFINAL FORMkINITIAL FORMmMEDIAL FORMqDOACHASHMEE ISOLATED FORM
nFINAL FORMkINITIAL FORMmMEDIAL FORMzcYEH BARREE ISOLATED FORMnFINAL FORM
kWITH HAMZA ABOVE ISOLATED FORMnFINAL FORMzuSYMBOL DOT ABOVEfBELOWjTWO DOTS ABOVEfBELOW
nHREE DOTS ABOVEfBELOWfPOINTING DOWNWARDS ABOVEfBELOWzkFOUR DOTS ABOVEfBELOW
pDOUBLE VERTICAL BAR BELOWzaTWO DOTS VERTICALLY ABOVEfBELOWzaRINGeSMALL TAH ABOVEfBELOW
pWASLA ABOVEsLETTER NG ISOLATED FORM@64467nFINAL FORMkINITIAL FORMmMEDIAL FORMoU ISOLATED FORM
nFINAL FORMmOE ISOLATED FORMnFINAL FORMnYU ISOLATED FORMnFINAL FORM
nU WITH HAMZA ABOVE ISOLATED FORMzhVE ISOLATED FORMnFINAL FORMnKIRGHIZ OE ISOLATED FORMnFINAL FORM
nYU ISOLATED FORMnFINAL FORMvE ISOLATED FORMnFINAL FORMkINITIAL FORMmMEDIAL FORM
nUIGHUR KAZAKH KIRGHIZ ALEF MAKSURA INITIAL FORMmMEDIAL FORM
zzcIGATURE YEH WITH HAMZA ABOVE WITH ALEF ISOLATED FORMnFINAL FORMoE ISOLATED FORMnFINAL FORM
nWAW ISOLATED FORMnFINAL FORMoU ISOLATED FORMnFINAL FORMmOE ISOLATED FORMnFINAL FORM
nYU ISOLATED FORMnFINAL FORMnE ISOLATED FORMnFINAL FORMkINITIAL FORM
zpUIGHUR KIRGHIZ YEH WITH HAMZA ABOVE WITH ALEF MAKSURA ISOLATED FORMnFINAL FORMkINITIAL FORM
zzyETTER FARSI YEH ISOLATED FORMnFINAL FORMkINITIAL FORMmMEDIAL FORM
zcIGATURE YEH WITH HAMZA ABOVE WITH JEEM ISOLATED FORMsHAH ISOLATED FORMrMEEM ISOLATED FORM
sALEF MAKSURA ISOLATED FORMzbYEH ISOLATED FORMzsBEH WITH JEEM ISOLATED FORMsHAH ISOLATED FORM
rKHAH ISOLATED FORMsMEEM ISOLATED FORMsALEF MAKSURA ISOLATED FORMzbYEH ISOLATED FORM
zbTEH WITH JEEM ISOLATED FORMsHAH ISOLATED FORMrKHAH ISOLATED FORMsMEEM ISOLATED FORM
sALEF MAKSURA ISOLATED FORMzbYEH ISOLATED FORMzaHEH WITH JEEM ISOLATED FORMsMEEM ISOLATED FORM
sALEF MAKSURA ISOLATED FORMzbYEH ISOLATED FORMzcJEEM WITH HAH ISOLATED FORMrMEEM ISOLATED FORM
zdHAH WITH JEEM ISOLATED FORMsMEEM ISOLATED FORMzcKHAH WITH JEEM ISOLATED FORMsHAH ISOLATED FORM
rMEEM ISOLATED FORMzdSEEN WITH JEEM ISOLATED FORMsHAH ISOLATED FORMrKHAH ISOLATED FORM
sMEEM ISOLATED FORMzcAD WITH HAH ISOLATED FORMrMEEM ISOLATED FORMzcDAD WITH JEEM ISOLATED FORM
sHAH ISOLATED FORMrKHAH ISOLATED FORMsMEEM ISOLATED FORMzcTAH WITH HAH ISOLATED FORM
rMEEM ISOLATED FORMzcZAH WITH MEEM ISOLATED FORMzcAIN WITH JEEM ISOLATED FORMsMEEM ISOLATED FORM
zcGHAIN WITH JEEM ISOLATED FORMsMEEM ISOLATED FORMzeFEH WITH JEEM ISOLATED FORMsHAH ISOLATED FORM
rKHAH ISOLATED FORMsMEEM ISOLATED FORMsALEF MAKSURA ISOLATED FORMzbYEH ISOLATED FORM
zbQAF WITH HAH ISOLATED FORMrMEEM ISOLATED FORMsALEF MAKSURA ISOLATED FORMzbYEH ISOLATED FORM
zbKAF WITH ALEF ISOLATED FORMsJEEM ISOLATED FORMsHAH ISOLATED FORMrKHAH ISOLATED FORM
sLAM ISOLATED FORMrMEEM ISOLATED FORMsALEF MAKSURA ISOLATED FORMzbYEH ISOLATED FORM
zbLAM WITH JEEM ISOLATED FORMsHAH ISOLATED FORMrKHAH ISOLATED FORMsMEEM ISOLATED FORM
sALEF MAKSURA ISOLATED FORMzbYEH ISOLATED FORMzbMEEM WITH JEEM ISOLATED FORMsHAH ISOLATED FORM
rKHAH ISOLATED FORMsMEEM ISOLATED FORMsALEF MAKSURA ISOLATED FORMzbYEH ISOLATED FORM
zcNOON WITH JEEM ISOLATED FORMsHAH ISOLATED FORMrKHAH ISOLATED FORMsMEEM ISOLATED FORM
sALEF MAKSURA ISOLATED FORMzbYEH ISOLATED FORMzcHEH WITH JEEM ISOLATED FORMsMEEM ISOLATED FORM
sALEF MAKSURA ISOLATED FORMzbYEH ISOLATED FORMzbYEH WITH JEEM ISOLATED FORMsHAH ISOLATED FORM
rKHAH ISOLATED FORMsMEEM ISOLATED FORMsALEF MAKSURA ISOLATED FORMzbYEH ISOLATED FORM
zbTHAL WITH SUPERSCRIPT ALEF ISOLATED FORMzpREH WITH SUPERSCRIPT ALEF ISOLATED FORM
zoALEF MAKSURA WITH SUPERSCRIPT ALEF ISOLATED FORMzxSHADDA WITH DAMMATAN ISOLATED FORM
wKASRATAN ISOLATED FORMwFATHA ISOLATED FORMtDAMMA ISOLATED FORMtKASRA ISOLATED FORM
tSUPERSCRIPT ALEF ISOLATED FORMzrYEH WITH HAMZA ABOVE WITH REH FINAL FORMoZAIN FINAL FORM
pMEEM FINAL FORMpNOON FINAL FORMpALEF MAKSURA FINAL FORMxYEH FINAL FORMzpBEH WITH REH FINAL FORM
oZAIN FINAL FORMpMEEM FINAL FORMpNOON FINAL FORMpALEF MAKSURA FINAL FORMxYEH FINAL FORM
xTEH WITH REH FINAL FORMoZAIN FINAL FORMpMEEM FINAL FORMpNOON FINAL FORMpALEF MAKSURA FINAL FORM
xYEH FINAL FORMwHEH WITH REH FINAL FORMoZAIN FINAL FORMpMEEM FINAL FORMpNOON FINAL FORM
pALEF MAKSURA FINAL FORMxYEH FINAL FORMyFEH WITH ALEF MAKSURA FINAL FORMxYEH FINAL FORM
xQAF WITH ALEF MAKSURA FINAL FORMxYEH FINAL FORMxKAF WITH ALEF FINAL FORMpLAM FINAL FORM
oMEEM FINAL FORMpALEF MAKSURA FINAL FORMxYEH FINAL FORMxLAM WITH MEEM FINAL FORM
pALEF MAKSURA FINAL FORMxYEH FINAL FORMxMEEM WITH ALEF FINAL FORMpMEEM FINAL FORM
zaNOON WITH REH FINAL FORMoZAIN FINAL FORMpMEEM FINAL FORMpNOON FINAL FORMpALEF MAKSURA FINAL FORM
xYEH FINAL FORMyALEF MAKSURA WITH SUPERSCRIPT ALEF FINAL FORMzuYEH WITH REH FINAL FORM
oZAIN FINAL FORMpMEEM FINAL FORMpNOON FINAL FORMpALEF MAKSURA FINAL FORMxYEH FINAL FORM
oHAMZA ABOVE WITH JEEM INITIAL FORMrHAH INITIAL FORMqKHAH INITIAL FORMrMEEM INITIAL FORM
rHEH INITIAL FORMzrBEH WITH JEEM INITIAL FORMrHAH INITIAL FORMqKHAH INITIAL FORMrMEEM INITIAL FORM
rHEH INITIAL FORMzaTEH WITH JEEM INITIAL FORMrHAH INITIAL FORMqKHAH INITIAL FORMrMEEM INITIAL FORM
rHEH INITIAL FORMyHEH WITH MEEM INITIAL FORMzcJEEM WITH HAH INITIAL FORMqMEEM INITIAL FORM
zcHAH WITH JEEM INITIAL FORMrMEEM INITIAL FORMzbKHAH WITH JEEM INITIAL FORMrMEEM INITIAL FORM
zcSEEN WITH JEEM INITIAL FORMrHAH INITIAL FORMqKHAH INITIAL FORMrMEEM INITIAL FORM
zbAD WITH HAH INITIAL FORMqKHAH INITIAL FORMrMEEM INITIAL FORMzbDAD WITH JEEM INITIAL FORM
rHAH INITIAL FORMqKHAH INITIAL FORMrMEEM INITIAL FORMzbTAH WITH HAH INITIAL FORM
zaZAH WITH MEEM INITIAL FORMzbAIN WITH JEEM INITIAL FORMrMEEM INITIAL FORM
zbGHAIN WITH JEEM INITIAL FORMrMEEM INITIAL FORMzdFEH WITH JEEM INITIAL FORMrHAH INITIAL FORM
qKHAH INITIAL FORMrMEEM INITIAL FORMzbQAF WITH HAH INITIAL FORMqMEEM INITIAL FORM
zbKAF WITH JEEM INITIAL FORMrHAH INITIAL FORMqKHAH INITIAL FORMrLAM INITIAL FORMqMEEM INITIAL FORM
zbLAM WITH JEEM INITIAL FORMrHAH INITIAL FORMqKHAH INITIAL FORMrMEEM INITIAL FORMrHEH INITIAL FORM
zaMEEM WITH JEEM INITIAL FORMrHAH INITIAL FORMqKHAH INITIAL FORMrMEEM INITIAL FORM
zcNOON WITH JEEM INITIAL FORMrHAH INITIAL FORMqKHAH INITIAL FORMrMEEM INITIAL FORM
rHEH INITIAL FORMzbHEH WITH JEEM INITIAL FORMrMEEM INITIAL FORMrSUPERSCRIPT ALEF INITIAL FORM
znYEH WITH JEEM INITIAL FORMrHAH INITIAL FORMqKHAH INITIAL FORMrMEEM INITIAL FORMrHEH INITIAL FORM
pAMZA ABOVE WITH MEEM MEDIAL FORMqHEH MEDIAL FORMzqBEH WITH MEEM MEDIAL FORMqHEH MEDIAL FORM
yTEH WITH MEEM MEDIAL FORMqHEH MEDIAL FORMxHEH WITH MEEM MEDIAL FORMqHEH MEDIAL FORM
zaSEEN WITH MEEM MEDIAL FORMqHEH MEDIAL FORMyHEEN WITH MEEM MEDIAL FORMqHEH MEDIAL FORM
zbKAF WITH LAM MEDIAL FORMpMEEM MEDIAL FORMzaLAM WITH MEEM MEDIAL FORMzaNOON WITH MEEM MEDIAL FORM
qHEH MEDIAL FORMzaYEH WITH MEEM MEDIAL FORMqHEH MEDIAL FORMySHADDA WITH FATHA MEDIAL FORM
rDAMMA MEDIAL FORMrKASRA MEDIAL FORMzeTAH WITH ALEF MAKSURA ISOLATED FORMzbYEH ISOLATED FORM
zbAIN WITH ALEF MAKSURA ISOLATED FORMzbYEH ISOLATED FORMzbGHAIN WITH ALEF MAKSURA ISOLATED FORM
zbYEH ISOLATED FORMzdSEEN WITH ALEF MAKSURA ISOLATED FORMzbYEH ISOLATED FORM
zbHEEN WITH ALEF MAKSURA ISOLATED FORMzbYEH ISOLATED FORMzdHAH WITH ALEF MAKSURA ISOLATED FORM
zbYEH ISOLATED FORMzbJEEM WITH ALEF MAKSURA ISOLATED FORMzbYEH ISOLATED FORM
zcKHAH WITH ALEF MAKSURA ISOLATED FORMzbYEH ISOLATED FORMzcSAD WITH ALEF MAKSURA ISOLATED FORM
zbYEH ISOLATED FORMzbDAD WITH ALEF MAKSURA ISOLATED FORMzbYEH ISOLATED FORM
zbSHEEN WITH JEEM ISOLATED FORMsHAH ISOLATED FORMrKHAH ISOLATED FORMsMEEM ISOLATED FORM
sREH ISOLATED FORMzcEEN WITH REH ISOLATED FORMzbAD WITH REH ISOLATED FORM
zbDAD WITH REH ISOLATED FORMzbTAH WITH ALEF MAKSURA FINAL FORMxYEH FINAL FORM
xAIN WITH ALEF MAKSURA FINAL FORMxYEH FINAL FORMxGHAIN WITH ALEF MAKSURA FINAL FORMxYEH FINAL FORM
zaSEEN WITH ALEF MAKSURA FINAL FORMxYEH FINAL FORMxHEEN WITH ALEF MAKSURA FINAL FORM
xYEH FINAL FORMzaHAH WITH ALEF MAKSURA FINAL FORMxYEH FINAL FORMxJEEM WITH ALEF MAKSURA FINAL FORM
xYEH FINAL FORMyKHAH WITH ALEF MAKSURA FINAL FORMxYEH FINAL FORMySAD WITH ALEF MAKSURA FINAL FORM
xYEH FINAL FORMxDAD WITH ALEF MAKSURA FINAL FORMxYEH FINAL FORMxSHEEN WITH JEEM FINAL FORM
pHAH FINAL FORMoKHAH FINAL FORMpMEEM FINAL FORMpREH FINAL FORMyEEN WITH REH FINAL FORM
xAD WITH REH FINAL FORMxDAD WITH REH FINAL FORMxSHEEN WITH JEEM INITIAL FORMrHAH INITIAL FORM
qKHAH INITIAL FORMrMEEM INITIAL FORMzcEEN WITH HEH INITIAL FORMzaHEEN WITH HEH INITIAL FORM
zcTAH WITH MEEM INITIAL FORMzbSEEN WITH JEEM MEDIAL FORMqHAH MEDIAL FORMpKHAH MEDIAL FORM
zaHEEN WITH JEEM MEDIAL FORMqHAH MEDIAL FORMpKHAH MEDIAL FORMzcTAH WITH MEEM MEDIAL FORM
zaZAH WITH MEEM MEDIAL FORMzaALEF WITH FATHATAN FINAL FORMkISOLATED FORMzxORNATE LEFT PARENTHESIS
qRIGHT PARENTHESISyARABIC LIGATURE RAHIMAHU ALLAAHnDI ALLAAHU ANHaAAcUMaAAdNNA
uSALLALLAAHU ALAYHI WA-AALIHzcALAYHI AS-SALAAMkM AS-SALAAMkAA AS-SALAAMn AS-SALAATU WAS-SALAAM
zdQUDDISA SIRRAHoSALLALLAHU ALAYHI WAAALIHEE WA-SALLAMzmALAYHAA AS-SALAAMrTABAARAKA WA-TAAALAA
uRAHIMAHUM ALLAAHqTEH WITH JEEM WITH MEEM INITIAL FORMzcHAH WITH JEEM FINAL FORMkINITIAL FORM
rMEEM INITIAL FORMzbKHAH WITH MEEM INITIAL FORMzcMEEM WITH JEEM INITIAL FORMrHAH INITIAL FORM
qKHAH INITIAL FORMzlJEEM WITH MEEM WITH HAH FINAL FORMkINITIAL FORM
zlHAH WITH MEEM WITH YEH FINAL FORMoALEF MAKSURA FINAL FORMzrSEEN WITH HAH WITH JEEM INITIAL FORM
zbJEEM WITH HAH INITIAL FORMqALEF MAKSURA FINAL FORMziMEEM WITH HAH FINAL FORMkINITIAL FORM
qJEEM INITIAL FORMrMEEM FINAL FORMkINITIAL FORMzlAD WITH HAH WITH HAH FINAL FORMkINITIAL FORM
zaMEEM WITH MEEM FINAL FORMziHEEN WITH HAH WITH MEEM FINAL FORMkINITIAL FORM
zbJEEM WITH YEH FINAL FORMyMEEM WITH KHAH FINAL FORMkINITIAL FORMrMEEM FINAL FORMkINITIAL FORM
znDAD WITH HAH WITH ALEF MAKSURA FINAL FORMzhKHAH WITH MEEM FINAL FORMkINITIAL FORM
zlTAH WITH MEEM WITH HAH FINAL FORMkINITIAL FORMqMEEM INITIAL FORMrYEH FINAL FORM
ziAIN WITH JEEM WITH MEEM FINAL FORMzaMEEM WITH MEEM FINAL FORMkINITIAL FORM
rALEF MAKSURA FINAL FORMzrGHAIN WITH MEEM WITH MEEM FINAL FORMpYEH FINAL FORM
oALEF MAKSURA FINAL FORMztFEH WITH KHAH WITH MEEM FINAL FORMkINITIAL FORM
zlQAF WITH MEEM WITH HAH FINAL FORMoMEEM FINAL FORMzjLAM WITH HAH WITH MEEM FINAL FORM
pYEH FINAL FORMoALEF MAKSURA FINAL FORMzhJEEM WITH JEEM INITIAL FORMmFINAL FORM
zaKHAH WITH MEEM FINAL FORMkINITIAL FORMzcMEEM WITH HAH FINAL FORMkINITIAL FORM
zkMEEM WITH HAH WITH JEEM INITIAL FORMrMEEM INITIAL FORMrYEH FINAL FORMxJEEM WITH HAH INITIAL FORM
qMEEM INITIAL FORMzcKHAH WITH JEEM INITIAL FORMrMEEM INITIAL FORM
zcJEEM WITH KHAH INITIAL FORM@64914zmHEH WITH MEEM WITH JEEM INITIAL FORMrMEEM INITIAL FORM
zlNOON WITH HAH WITH MEEM INITIAL FORMrALEF MAKSURA FINAL FORMzhJEEM WITH MEEM FINAL FORM
kINITIAL FORMrALEF MAKSURA FINAL FORMziMEEM WITH YEH FINAL FORMoALEF MAKSURA FINAL FORM
zsYEH WITH MEEM WITH MEEM FINAL FORMkINITIAL FORMzlBEH WITH KHAH WITH YEH FINAL FORM
ziTEH WITH JEEM WITH YEH FINAL FORMoALEF MAKSURA FINAL FORMziKHAH WITH YEH FINAL FORM
oALEF MAKSURA FINAL FORMziMEEM WITH YEH FINAL FORMoALEF MAKSURA FINAL FORM
zrJEEM WITH MEEM WITH YEH FINAL FORMyHAH WITH ALEF MAKSURA FINAL FORM
zhMEEM WITH ALEF MAKSURA FINAL FORMzsSEEN WITH KHAH WITH ALEF MAKSURA FINAL FORM
zrAD WITH HAH WITH YEH FINAL FORMzgHEEN WITH HAH WITH YEH FINAL FORM
zjDAD WITH HAH WITH YEH FINAL FORMzhLAM WITH JEEM WITH YEH FINAL FORMyMEEM WITH YEH FINAL FORM
ziYEH WITH HAH WITH YEH FINAL FORMxJEEM WITH YEH FINAL FORMyMEEM WITH YEH FINAL FORM
ziMEEM WITH MEEM WITH YEH FINAL FORMzjQAF WITH MEEM WITH YEH FINAL FORM
ziNOON WITH HAH WITH YEH FINAL FORMziQAF WITH MEEM WITH HAH INITIAL FORM
zkLAM WITH HAH WITH MEEM INITIAL FORMzkAIN WITH MEEM WITH YEH FINAL FORM
ziKAF WITH MEEM WITH YEH FINAL FORMziNOON WITH JEEM WITH HAH INITIAL FORM
zlMEEM WITH KHAH WITH YEH FINAL FORMzjLAM WITH JEEM WITH MEEM INITIAL FORM
zlKAF WITH MEEM WITH MEEM FINAL FORMzjLAM WITH JEEM WITH MEEM FINAL FORM
zjNOON WITH JEEM WITH HAH FINAL FORMzjJEEM WITH HAH WITH YEH FINAL FORM
ziHAH WITH JEEM WITH YEH FINAL FORMziMEEM WITH JEEM WITH YEH FINAL FORM
zjFEH WITH MEEM WITH YEH FINAL FORMziBEH WITH HAH WITH YEH FINAL FORM
zhKAF WITH MEEM WITH MEEM INITIAL FORMzlAIN WITH JEEM WITH MEEM INITIAL FORM
zlSAD WITH MEEM WITH MEEM INITIAL FORMzkEEN WITH KHAH WITH YEH FINAL FORM
zjNOON WITH JEEM WITH YEH FINAL FORMzjSALAAMUHU ALAYNAA@64975
oLA USED AS KORANIC STOP SIGN ISOLATED FORM@65008zuQALA USED AS KORANIC STOP SIGN ISOLATED FORM
ztALLAH ISOLATED FORMsKBAR ISOLATED FORMtMOHAMMAD ISOLATED FORMwSALAM ISOLATED FORM
tRASOUL ISOLATED FORMuALAYHE ISOLATED FORMuWASALLAM ISOLATED FORMwSALLA ISOLATED FORM
oLLAHOU ALAYHE WASALLAMzcJALLAJALALOUHOUzgRIAL SIGNjARABIC LIGATURE BISMILLAH AR-RAHMAN AR-RAHEEM
zeSUBHAANAHU WA TAAALAAvAZZA WA JALLzdVARIATION SELECTOR-1b2b3b4b5b6b7b8b9b10b1b2b3b4b5b6
vPRESENTATION FORM FOR VERTICAL COMMAfIDEOGRAPHIC COMMAfFULL STOPvCOLONfSEMICOLONjEXCLAMATION MARK
qQUESTION MARKnLEFT WHITE LENTICULAR BRACKETzeRIGHT WHITE LENTICULAR BRAKCETzfHORIZONTAL ELLIPSIS
zzaCOMBINING LIGATURE LEFT HALF@65056jRIGHT HALFtDOUBLE TILDE LEFT HALFjRIGHT HALF
xMACRON LEFT HALFjRIGHT HALFrCONJOINING MACRONrLIGATURE LEFT HALF BELOWpRIGHT HALF BELOW
zaTILDE LEFT HALF BELOWpRIGHT HALF BELOWwMACRON LEFT HALF BELOWpRIGHT HALF BELOW
xCONJOINING MACRON BELOWwYRILLIC TITLO LEFT HALFjRIGHT HALF
zkPRESENTATION FORM FOR VERTICAL TWO DOT LEADERoEM DASHgN DASHhLOW LINEiWAVY LOW LINE
nLEFT PARENTHESISqRIGHT PARENTHESISrLEFT CURLY BRACKETsRIGHT CURLY BRACKET
tLEFT TORTOISE SHELL BRACKETzcRIGHT TORTOISE SHELL BRACKETzdLEFT BLACK LENTICULAR BRACKET
zeRIGHT BLACK LENTICULAR BRACKETzfLEFT DOUBLE ANGLE BRACKETzaRIGHT DOUBLE ANGLE BRACKET
zbLEFT ANGLE BRACKETsRIGHT ANGLE BRACKETtLEFT CORNER BRACKETtRIGHT CORNER BRACKET
uLEFT WHITE CORNER BRACKETzaRIGHT WHITE CORNER BRACKETzzhSESAME DOTkWHITE SESAME DOT
qPRESENTATION FORM FOR VERTICAL LEFT SQUARE BRACKETtRIGHT SQUARE BRACKETzzbDASHED OVERLINE
pCENTRELINE OVERLINEtWAVY OVERLINEnDOUBLE WAVY OVERLINEtASHED LOW LINEpCENTRELINE LOW LINE
tWAVY LOW LINEnSMALL COMMAfIDEOGRAPHIC COMMArFULL STOPjSEMICOLON@65108jCOLONfQUESTION MARK
nEXCLAMATION MARKpM DASHhLEFT PARENTHESISqRIGHT PARENTHESISrLEFT CURLY BRACKETsRIGHT CURLY BRACKET
tLEFT TORTOISE SHELL BRACKETzcRIGHT TORTOISE SHELL BRACKETzdNUMBER SIGNlAMPERSANDiSTERISK
iPLUS SIGNjHYPHEN-MINUSmLESS-THAN SIGNoGREATER-THAN SIGNrEQUALS SIGNlREVERSE SOLIDUS@65128
pDOLLAR SIGNlPERCENT SIGNmCOMMERCIAL ATtARABIC FATHATAN ISOLATED FORM@65136
wTATWEEL WITH FATHATAN ABOVEzcDAMMATAN ISOLATED FORMwTAIL FRAGMENTnKASRATAN ISOLATED FORM
wFATHA ISOLATED FORM@65142nMEDIAL FORMrDAMMA ISOLATED FORMnMEDIAL FORMrKASRA ISOLATED FORM
nMEDIAL FORMrSHADDA ISOLATED FORMnMEDIAL FORMrUKUN ISOLATED FORMnMEDIAL FORM
rLETTER HAMZA ISOLATED FORMtALEF WITH MADDA ABOVE ISOLATED FORMnFINAL FORM
wHAMZA ABOVE ISOLATED FORMnFINAL FORMzhWAW WITH HAMZA ABOVE ISOLATED FORMnFINAL FORM
zgALEF WITH HAMZA BELOW ISOLATED FORMnFINAL FORMzhYEH WITH HAMZA ABOVE ISOLATED FORMnFINAL FORM
kINITIAL FORMmMEDIAL FORMzhALEF ISOLATED FORMnFINAL FORMpBEH ISOLATED FORMnFINAL FORMkINITIAL FORM
mMEDIAL FORMpTEH MARBUTA ISOLATED FORMnFINAL FORMsISOLATED FORMnFINAL FORMkINITIAL FORM
mMEDIAL FORMoHEH ISOLATED FORMnFINAL FORMkINITIAL FORMmMEDIAL FORMqJEEM ISOLATED FORMnFINAL FORM
kINITIAL FORMmMEDIAL FORMqHAH ISOLATED FORMnFINAL FORMkINITIAL FORMmMEDIAL FORMpKHAH ISOLATED FORM
nFINAL FORMkINITIAL FORMmMEDIAL FORMqDAL ISOLATED FORMnFINAL FORMoTHAL ISOLATED FORMnFINAL FORM
pREH ISOLATED FORMnFINAL FORMoZAIN ISOLATED FORMnFINAL FORMpSEEN ISOLATED FORMnFINAL FORM
kINITIAL FORMmMEDIAL FORMpHEEN ISOLATED FORMnFINAL FORMkINITIAL FORMmMEDIAL FORMqAD ISOLATED FORM
nFINAL FORMkINITIAL FORMmMEDIAL FORMpDAD ISOLATED FORMnFINAL FORMkINITIAL FORMmMEDIAL FORM
pTAH ISOLATED FORMnFINAL FORMkINITIAL FORMmMEDIAL FORMpZAH ISOLATED FORMnFINAL FORMkINITIAL FORM
mMEDIAL FORMpAIN ISOLATED FORMnFINAL FORMkINITIAL FORMmMEDIAL FORMpGHAIN ISOLATED FORMnFINAL FORM
kINITIAL FORMmMEDIAL FORMrFEH ISOLATED FORMnFINAL FORMkINITIAL FORMmMEDIAL FORMpQAF ISOLATED FORM
nFINAL FORMkINITIAL FORMmMEDIAL FORMpKAF ISOLATED FORMnFINAL FORMkINITIAL FORMmMEDIAL FORM
pLAM ISOLATED FORMnFINAL FORMkINITIAL FORMmMEDIAL FORMpMEEM ISOLATED FORMnFINAL FORMkINITIAL FORM
mMEDIAL FORMqNOON ISOLATED FORMnFINAL FORMkINITIAL FORMmMEDIAL FORMqHEH ISOLATED FORMnFINAL FORM
kINITIAL FORMmMEDIAL FORMpWAW ISOLATED FORMnFINAL FORMoALEF MAKSURA ISOLATED FORMnFINAL FORM
xYEH ISOLATED FORMnFINAL FORMkINITIAL FORMmMEDIAL FORM
vIGATURE LAM WITH ALEF WITH MADDA ABOVE ISOLATED FORMnFINAL FORMwHAMZA ABOVE ISOLATED FORM
nFINAL FORMqBELOW ISOLATED FORMnFINAL FORMzcISOLATED FORMnFINAL FORM
zpZERO WIDTH NO-BREAK SPACE@65279zaFULLWIDTH EXCLAMATION MARK@65281qQUOTATION MARKoNUMBER SIGN
lDOLLAR SIGNlPERCENT SIGNmAMPERSANDiPOSTROPHEkLEFT PARENTHESISqRIGHT PARENTHESISrASTERISK
iPLUS SIGNjCOMMAfHYPHEN-MINUSmFULL STOPjSOLIDUShDIGIT ZEROeONEdTWOcHREEfFOURdIVEeSIXcEVENfEIGHT
fNINEkCOLONfSEMICOLONjLESS-THAN SIGNoEQUALS SIGNlGREATER-THAN SIGNrQUESTION MARKnCOMMERCIAL AT
nLATIN CAPITAL LETTER AbBbCbDbEbFbGbHbIbJbKbLbMbNbObPbQbRbSbTbUbVbWbXbYbZvEFT SQUARE BRACKET
tREVERSE SOLIDUSoIGHT SQUARE BRACKETuCIRCUMFLEX ACCENTrLOW LINEiGRAVE ACCENTmLATIN SMALL LETTER A
bBbCbDbEbFbGbHbIbJbKbLbMbNbObPbQbRbSbTbUbVbWbXbYbZtEFT CURLY BRACKETsVERTICAL LINE
nRIGHT CURLY BRACKETtTILDEfLEFT WHITE PARENTHESISwRIGHT WHITE PARENTHESIS
ziHALFWIDTH IDEOGRAPHIC FULL STOPvLEFT CORNER BRACKETtRIGHT CORNER BRACKETuIDEOGRAPHIC COMMA
rKATAKANA MIDDLE DOTkLETTER WOcSMALL AbIbUbEbObYAbUbOcTUq-HIRAGANA PROLONGED SOUND MARKzf LETTER A
bIbUbEbObKAbIbUbEbOcSAbIbUbEbOcTAbIbUbEbOcNAbIbUbEbOcHAbIbUbEbOcMAbIbUbEbOcYAbUbOcRAbIbUbEbOcWAcN
iVOICED SOUND MARKrSEMI-VOICED SOUND MARKzgHANGUL FILLERgLETTER KIYEOKgSSANGKIYEOKlKIYEOK-SIOS
lNIEUNa-CIEUCfHIEUHlTIKEUTgSSANGTIKEUTlRIEULa-KIYEOKgMIEUMfPIEUPfSIOSeTHIEUTHhPHIEUPHhHIEUHlMIEUM
fPIEUPfSSANGPIEUPkPIEUP-SIOSkSIOSdSANGSIOSjIEUNGfCIEUCfSSANGCIEUCkCHIEUCHhKHIEUKHhTHIEUTHhPHIEUPH
hHIEUHfA@65474aEcYAaEdEOb@65479bYEO@65482b@65483cObWAaEdOEcYO@65490cUbWEOb@65493bIcYUcEU@65498cYI
cIzaFULLWIDTH CENT SIGN@65504jPOUND SIGNkNOT SIGNiMACRONgBROKEN BARkYEN SIGNiWON SIGN
sHALFWIDTH FORMS LIGHT VERTICAL@65512uLEFTWARDS ARROWpUPWARDS ARROWnRIGHTWARDS ARROW
qDOWNWARDS ARROWpBLACK SQUAREmWHITE CIRCLEwINTERLINEAR ANNOTATION ANCHOR@65529gSEPARATOR
jTERMINATORziOBJECT REPLACEMENT CHARACTERzdREPLACEMENT CHARACTERvLINEAR B SYLLABLE B008 A@65536
e38 Ee28 Ie61 Oe10 Ue01 DAf45 DEf07 DIf14 DOf51 DUe7 JAf46 JEf36 JO@65549f65 JUf77 KAf44 KEf67 KI
f70 KOf81 KUe0 MAf13 MEf73 MIf15 MOf23 MUf06 NAf24 NEf30 NIf52 NOe5 NUf03 PAf72 PEf39 PIf11 PO
f50 PUf16 QAf78 QEf21 QIf32 QOf60 RA@65576f27 REf53 RIf02 ROf26 RUf31 SAf09 SEf41 SIf12 SOf58 SU
e9 TAf04 TEf37 TIf05 TOf69 TUf54 WAf75 WEf40 WIe2 WOf17 ZA@65596f74 ZEf20 ZO@65599e5 A2f43 A3
f85 AUf71 DWEg90 DWOg48 NWAg29 PU2g62 PTEg76 RA2g33 RA3g68 RO2f6 TA2g87 TWEg91 TWOpMBOL B018@65616
b9c22c34c47b9c56c63b4c79c82b3b6b9lIDEOGRAM B100 MAN@65664f2 WOMANh4 DEERg5 EQUIDgF MAREgM STALLION
l6F EWEfM RAMg7F SHE-GOATkM HE-GOATk8F SOWfM BOARh9F COWfM BULLi20 WHEATh1 BARLEYi2 OLIVEh3 SPICE
h5 CYPERUSvMONOGRAM B127 KAPOg8 KANAKOuIDEOGRAM B130 OILf1 WINEg2nMONOGRAM B133 AREPAh5 MERI
sIDEOGRAM B140 BRONZEi1 GOLDg2b5 WOOLg6c50b1 HORNg2b3b4nMONOGRAM B156 TURO2tIDEOGRAM B157b8
b9 CLOTHi60b1b2 GARMENTj3 ARMOURi4b5b6b7b8b9c70b1b2b3 MONTHh4b6 TREEg7b8b9c80b1b2b3b4b5b9c90
b1 HELMETk220 FOOTSTOOLl5 BATHTUBk30 SPEARh1 ARROWh2b3 SWORDh4b6c40 WHEELED CHARIOTr1 CHARIOT
j2 CHARIOT FRAMEp3 WHEELh5b6nMONOGRAM B247 DIPTEtIDEOGRAM B248b9c51b2b3b4 DARTg5b6b7b8b9
eVESSEL B155d200b1b2b3b4b5b6b7b8b9c10b1b2b3b4b5b6b7b8b9c21b2b6b7b8b9c50d305
zeAEGEAN WORD SEPARATOR LINE@65792eDOTsCHECK MARKkNUMBER ONE@65799dTWOcHREEfFOURdIVEeSIXcEVEN
fEIGHTfNINEeTENcWENTYfHIRTYgFORTYeIFTYfSIXTYeEVENTYhEIGHTYgNINETYgONE HUNDREDlTWO HUNDRED
kHREE HUNDREDnFOUR HUNDREDlIVE HUNDREDmSIX HUNDREDkEVEN HUNDREDnEIGHT HUNDREDnNINE HUNDRED
mONE THOUSANDmTWO THOUSANDlHREE THOUSANDoFOUR THOUSANDmIVE THOUSANDnSIX THOUSANDlEVEN THOUSAND
oEIGHT THOUSANDoNINE THOUSANDnTEN THOUSANDlWENTY THOUSANDoHIRTY THOUSANDpFORTY THOUSAND
nIFTY THOUSANDoSIXTY THOUSANDnEVENTY THOUSANDqEIGHTY THOUSANDpNINETY THOUSAND
wWEIGHT BASE UNIT@65847jFIRST SUBUNITnSECOND SUBUNIToTHIRD SUBUNITnFOURTH SUBUNIT
vDRY MEASURE FIRST SUBUNITzaLIQUID MEASURE FIRST SUBUNITzdMEASURE SECOND SUBUNIToTHIRD SUBUNIT
zdGREEK ACROPHONIC ATTIC ONE QUARTERhHALFeDRACHMAlFIVEcFTYdVE HUNDREDhTHOUSANDlFTY THOUSAND
mVE TALENTSmTEN TALENTSlFIFTY TALENTSnONE HUNDRED TALENTStFIVE HUNDRED TALENTS
uONE THOUSAND TALENTSuFIVE THOUSAND TALENTSqSTATERSmTEN STATERSlFIFTY STATERSnONE HUNDRED STATERS
tFIVE HUNDRED STATERSuONE THOUSAND STATERSuTEN THOUSAND STATERSuFIFTY THOUSAND STATERSwTEN MNAS
oHERAEUM ONE PLETHRONuTHESPIAN ONEmHERMIONIAN ONEoEPIDAUREAN TWOoTHESPIAN TWO
mCYRENAIC TWO DRACHMASvEPIDAUREAN TWO DRACHMASxTROEZENIAN FIVEeTENa ALTERNATE FORMzeHERMIONIAN TEN
oMESSENIAN TENnTHESPIAN TENcHIRTYoROEZENIAN FIFTYa ALTERNATE FORMzgHERMIONIAN FIFTYqTHESPIAN FIFTY
fONE HUNDREDlTHREE HUNDREDwEPIDAUREAN FIVE HUNDREDxTROEZENIAN FIVE HUNDREDwHESPIAN FIVE HUNDRED
vCARYSTIAN FIVE HUNDREDwNAXIAN FIVE HUNDREDtTHESPIAN ONE THOUSANDmFIVE THOUSANDwDELPHIC FIVE MNAS
rSTRATIAN FIFTY MNASzfONE HALF SIGNa ALTERNATE FORMzdTWO THIRDS SIGNoHREE QUARTERS SIGNtYEAR SIGN
jTALENT SIGNlDRACHMA SIGNmOBOL SIGNjTWO OBOLS SIGNnHREE OBOLS SIGNqFOUR OBOLS SIGNoIVE OBOLS SIGN
pMETRETES SIGNnKYATHOS BASE SIGNrLITRA SIGNkOUNKIA SIGNlXESTES SIGNlARTABE SIGNjOURA SIGN
lGRAMMA SIGNlTRYBLION BASE SIGNsZERO SIGNjONE QUARTER SIGNqSINUSOID SIGNnINDICTION SIGN
uNOMISMA SIGNmROMAN SEXTANS SIGN@65936mUNCIA SIGNkSEMUNCIA SIGNlXTULA SIGNmDIMIDIA SEXTULA SIGN
uSILIQUA SIGNmDENARIUS SIGNnQUINARIUS SIGNoSESTERTIUS SIGNpDUPONDIUS SIGNoAS SIGNhCENTURIAL SIGN
uASCIA SYMBOLmGREEK SYMBOL TAU RHO@65952uPHAISTOS DISC SIGN PEDESTRIAN@66000jLUMED HEAD
lTATTOOED HEADnCAPTIVEgHILDfWOMANfHELMETgGAUNTLETiTIARAfARROWfBOWdSHIELDgCLUBeMANACLESgTTOCKhSAW
dLIDdBOOMERANGjCARPENTRY PLANEpDOLIUMgCOMBeSLINGfCOLUMNgBEEHIVEhSHIPeHORNdIDEeBULLS LEGjCATdRAM
dEAGLEfDOVEeTUNNYfBEEdPLANE TREEkVINEePAPYRUShROSETTEhLILYeOX BACKhFLUTEfGRATERgSTRAINERhMALL AXE
jWAVY BANDjCOMBINING OBLIQUE STROKEzsLYCIAN LETTER A@66176bEbBaHcGbDbIbWbZbTHcJbKbQbLbMbNbMMcNNcU
bPbKKcRbSbTaTcANcENcHbXpCARIAN LETTER A@66208bP2cDbLbUUUdRbLDcA2cQbBbMbObD2cTbSHa2c@66224bC-18eU
bNNcXbNbTT2dPbSScIbEbUUUUeKa2cNDcUUcGa2cSTa2dNGcIIcC-39eTTcUUU2eRRcMBa2b3b4dLD2dE2cUUU3
rOPTIC EPACT THOUSANDS MARK@66272oDIGIT ONEdTWOcHREEfFOURdIVEeSIXcEVENfEIGHTfNINEkNUMBER TENcWENTY
fHIRTYgFORTYeIFTYfSIXTYeEVENTYhEIGHTYgNINETYgONE HUNDREDlTWO HUNDREDkHREE HUNDREDnFOUR HUNDRED
lIVE HUNDREDmSIX HUNDREDkEVEN HUNDREDnEIGHT HUNDREDnNINE HUNDREDzhOLD ITALIC LETTER A@66304bBEcKE
cDEcEbVEcZEcHEcTHEdIbKAcELbMbNbSHdObPEcSHEdKUcERbScTEcUbEKSdPHEdKHEdEFbRSdCHEdIIcUUcESS
kNUMERAL ONEdFIVEeTENdFIFTYnLETTER YE@66349cNORTHERN TSEmSOUTHERN TSEzfGOTHIC LETTER AHSAeBAIRKAN
hGIBAeDAGSeAIHVUSgQAIRTHRAiIUJAeHAGLeTHIUTHgEISdKUSMAfLAGUSfMANNAfNAUTHSgJERdURUSePAIRTHRAiNINETY
gRAIDAfSAUILfTEIWSfWINJAfFAIHUfIGGWSfHWAIRfOTHALfNINE HUNDREDzbOLD PERMIC LETTER AN@66384cBURdGAI
dDOIdEbZHOIeDZHOIfZATAeDZITAfIbKOKEeLEIdMENOEfNENOEfVOOIePEEIeREIdSIIdTAIdUbCHERYfSHOOIdCHOOIhYRY
cERUeOaOcEFcHAcTSIUeVERdYERaIdATdIEcYUbAcIAuCOMBINING OLD PERMIC LETTER ANcDOIdZATAeNENOEfSII
zgUGARITIC LETTER ALPA@66432eBETAeGAMLAfKHAdDELTAfHOcWOcZETAeHOTAeTETdYODdKAFdSHINeLAMDAfMEMdDHAL
eNUNdZUcSAMKAfAINdPUcSADEeQOPAeRASHAfTHANNAgGHAINfTOcIbUbSSUkWORD DIVIDER@66463vOLD PERSIAN SIGN A
bIbUbKAbUcGAbUcXAcCAcJAbIcTAbUcDAbIbUcTHAdPAcBAcFAcNAbUcMAbIbUcYAcVAbIcRAbUcLAcSAcZAcSHAcSAdHA
cAURAMAZDAA@66504a-2cHAmXSHAAYATHIYAmDAHYAAUSHa-2lBAGAdUUMISHmWORD DIVIDERmNUMBER ONEdTWOcENcWENTY
gHUNDREDzbDESERET CAPITAL LETTER LONG I@66560bEbAaHcOaOhSHORT IbEbAaHcOaOiAYcOWcWUcYEEdHbPEEdBEE
dTEEdDEEdCHEEeJEEdKAYdGAYdEFcVEEdETHdTHEEeEScZEEdESHdZHEEeERbLbMbNaGdOIcEWrSMALL LETTER LONG IbEbA
aHcOaOhSHORT IbEbAaHcOaOiAYcOWcWUcYEEdHbPEEdBEEdTEEdDEEdCHEEeJEEdKAYdGAYdEFcVEEdETHdTHEEeEScZEE
dESHdZHEEeERbLbMbNaGdOIcEWxSHAVIAN LETTER PEEPeTOTdKICKeFEEdTHIGHfSObUREeCHURCHgYEAdHUNGeBIBdDEAD
eGAGdVOWdTHEYeZOOdMEASUREhJUDGEfWOEdHA-HAfLOLLeMIMEeIFcEGGdASHcDOdONcWOOLeOUTdAHcROAReNUNdEATdAGE
dICEdUPcOAKcOZEdILdAWEcREdORcAIRdERRdARRAYfEARdIANdYEWsOSMANYA LETTER ALEFeBAcTAcJAcXAcKHAdDEELeRA
cSAbHIINfDHAdCAYNeGAcFAcQAAFeKAAFeLAANeMIINeNUUNeWAWdHAcYAcAbEbIbObUbAAcEEcOOjDIGIT ZERO@66720eONE
dTWOcHREEfFOURdIVEeSIXcEVENfEIGHTfNINEqAGE CAPITAL LETTER A@66736aIaNcHcBRAdCHAdEHCHAe@66743aINdHA
bYAdIbKAcEHKAeKYAdLAcMAcNAcOaINdPAcEHPAeSAbHAdTAcEHTAeTSAdEHTSAfTSHAeDHAdUbWAcKHAdGHAdZAbHA
sSMALL LETTER A@66776aIaNcHcBRAdCHAdEHCHAe@66783aINdHAbYAdIbKAcEHKAeKYAdLAcMAcNAcOaINdPAcEHPAeSA
bHAdTAcEHTAeTSAdEHTSAfTSHAeDHAdUbWAcKHAdGHAdZAbHAwELBASAN LETTER A@66816bBEcCEbHEdDEcNDEdDHEdEI
b@66824bFEcGEbJEdHEcIbJEcKEcLEbLEdMEcNEbAbJEdObPEcQEcREbREdSEbHEdTEbHEdUbVEcXEcYbZEbHEdGHEbAMMA
gKHEsCAUCASIAN ALBANIAN LETTER ALT@66864dBETdGIMdDATdEBcZARLeEYNdZHILeTASdCHAdYOWDeZHAdIRBdSHAdLAN
dINYAeXEYNeDYANeCARdJHOXeKARdLYITeHEYTeQAYdAORdCHOYcIcYAYeMAQdQARdNOWCeDZYAYfSHAKeJAYNeONcTYAYeFAM
dDZAYeCHATePENdGHEYSfRATdSEYKeVEYZeTIWReSHOYeIWNdCYAWdAYNeYAYDePIWReKIWkCITATION MARK@66927
zhVITHKUQI CAPITAL LETTER AbBBEcEcCEbHEdDEbHEdEIb@66936bFEcGAcHA@66940bHAdIaJEdJEcKAcLAbLAdMEcNE
bJEdObPEcQAcREcSE@66956bHEdTEbHEdUbVEcXEcY@66964bZErSMALL LETTER A@66967bBBEcEcCEbHEdDEbHEdEI
b@66975bFEcGAcHA@66979bHAdIaJEdJEcKAcLAbLAdMEcNEbJEdObPEcQAcREcSE@66995bHEdTEbHEdUbVEcXEcY@67003
bZEyLINEAR A SIGN AB001@67072b2b3b4b5b6b7b8b9c10b1b3b6b7c20b1aFbMc2aFbMc3aMc4b6b7b8e028BeB029c30b1
b4b7b8b9c40b1b4b5b6b7b8b9c50b1b3b4b5b6b7b8b9c60b1b5b6b7b9c70b3b4b6b7b8b9c80b1b2b5b6b7e100-102hB118
c20e120BeB122b3c31AbBf131CeB164c71c80b8c91e301b2b3b4b5b6b7b8b9AbBbCd10b1b2b3AbBbCc4b5b6b7b8b9c20b1
b2b3b4b5b6b7b8b9c30b1b2b3b4b5b6b7b8b9c40b1b2b3b4b5b6b7b8b9c50b1b2b3b4b5b6b7b8b9c60b1b2b3b4b5b6b7b8
b9c70b1d400-VASf1-VASf2-VASf3-VASf4-VASf5-VASf6-VASf7-VASf8-VASf9-VASg10-VASf1-VASf2-VASf3-VAS
f4-VASf5-VASf6-VASf7-VASf8-VASh501b2b3b4b5b6b8b9c10b1b2b3b5b6c20b1b3b4b5b6b7b8b9c30b1b2b4b5b6b7b8
b9c40b1b2b5b7b8b9c50b1b2b3b4b5b6b7b9c63b4b5b6b8b9c70b1b2b3b4b5b6b7b8b9c80b1b2b3b4b5b6b7b8b9c91b2b4
b5b6b8d600b1b2b3b4b6b8b9c10b1b2b3b4b5b6b7b8b9c20b1b2b3b4b6b7b8b9c34b7b8c40b2b3b4b5b6b8b9c51b2b3b4
b5b6b7b8b9c60b1b2b3b4d701 A@67392d2 Bd3 Dd4 Ed5 Fd6 Hd7 Jd8 Kd9 Lc-2 L2e3 L3e4 L4e6 L6h10 Wd1 X
d2 Yd3 OMEGAh4 ABBf5 BBe7 DDf26 EYYYh32 JEg800@67424b1b2b3b4b5b6b7
sMODIFIER LETTER SMALL CAPITAL AA@67456pUPERSCRIPT TRIANGULAR COLONqHALF TRIANGULAR COLONzhMALL AE
cCAPITAL BjB WITH HOOKlDZ DIGRAPH@67463a WITH RETROFLEX HOOKoCURLtEZH DIGRAPHl WITH TAILeHOOK
a AND TAILuREVERSED EkCLOSED REVERSED OPEN EwFENG DIGRAPHmRAMS HORNjCAPITAL GjG WITH HOOK
lCAPITAL G WITH HOOKtH WITH STROKEnCAPITAL HjHENG WITH HOOKoDOTLESS J WITH STROKE AND HOOK
zfLS DIGRAPHjZ DIGRAPHj WITH BELTlCAPITAL L WITH BELTtL WITH RETROFLEX HOOK AND BELTzeEZH
a WITH RETROFLEX HOOKyTURNED Ya WITH BELTsO WITH STROKEnCAPITAL OEjLOSED OMEGAmQ
bTURNED R WITH LONG LEGa AND RETROFLEX HOOKzqR WITH TAILeFISHHOOKpCAPITAL RjTC DIGRAPH WITH CURL
tS DIGRAPHa WITH RETROFLEX HOOKzeESH DIGRAPHl WITH RETROFLEX HOOKvV WITH RIGHT HOOK
rCAPITAL Y@67506pGLOTTAL STOP WITH STROKEyREVERSED GLOTTAL STOP WITH STROKEziBILABIAL CLICK
oDENTAL CLICKmLATERAL CLICKnALVEOLAR CLICKoRETROFLEX CLICK WITH RETROFLEX HOOKzkSMALL S WITH CURL
ziCYPRIOT SYLLABLE A@67584bEbIbObUbJAbO@67592cKA@67594bEbIbObUcLAbEbIbObUcMAbEbIbObUcNAbEbIbObUcPA
bEbIbObUcRAbEbIbObUcSAbEbIbObUcTAbEbIbObUcWAbEbIbOcXA@67639bEcZA@67644bO@67647
tIMPERIAL ARAMAIC LETTER ALEPHfBETHeGIMELfDALETHgHEcWAWdZAYINfHETHeTETHeYODHeKAPHeLAMEDHgMEMdNUN
dSAMEKHgAYINePEcSADHEfQOPHeRESHeSHINeTAWkSECTION SIGN@67671mNUMBER ONEdTWOcHREEeENcWENTY
gONE HUNDREDhTHOUSANDmTEN THOUSANDzlPALMYRENE LETTER ALEPHfBETHeGIMELfDALETHgHEcWAWdZAYINfHETH
eTETHeYODHeKAPHeLAMEDHgMEMdFINAL NUNjNUNdSAMEKHgAYINePEcSADHEfQOPHeRESHeSHINeTAW
iFT-POINTING FLEURONvRIGHT-POINTING FLEURONwNUMBER ONEdTWOcHREEfFOURdIVEeTENcWENTY
xNABATAEAN LETTER FINAL ALEPHlALEPHfFINAL BETHkBETHeGIMELfDALETHgFINAL HEiHEcWAWdZAYINfHETHeTETH
eFINAL YODHkYODHeFINAL KAPHkKAPHeFINAL LAMEDHmLAMEDHgFINAL MEMjMEMdFINAL NUNjNUNdSAMEKHgAYINePE
cSADHEfQOPHeRESHeFINAL SHINkSHINeTAWkNUMBER ONE@67751dTWOcHREEfFOURlCRUCIFORM NUMBER FOUR
vNUMBER FIVEeTENcWENTYgONE HUNDREDzdHATRAN LETTER ALEPH@67808fBETHeGIMELfDALETH-RESHlHEcWAWdZAYN
eHETHeTETHeYODHeKAPHeLAMEDHgMEMdNUNdSAMEKHgAYNdPEcSADHEfQOPHeSHIN@67828eTAWkNUMBER ONE@67835dFIVE
eTENcWENTYgONE HUNDREDzaPHOENICIAN LETTER ALFdBETdGAMLeDELTeHEcWAUdZAIdHETdTETdYODdKAFdLAMDeMEM
dNUNdSEMKeAINdPEcSADEeQOFdROSHeSHINeTAUkNUMBER ONEdTENcWENTYgONE HUNDREDlTWOcHREE
mWORD SEPARATOR@67871zaLYDIAN LETTER AbBbGbDbEbVbIbYbKbLbMbNbObRbSScTbUbFbQbSbTTcANcENcLYcNNcC
iTRIANGULAR MARK@67903wMEROITIC HIEROGLYPHIC LETTER A@67968bEbIbObYAcWAcBAa-2ePAcMAcNAa-2dEa-2eRA
a-2eLAcKHAdHHAdSAa-2dEcKAcQAcTAa-2dEa-2dOcDAjSYMBOL VIDJa-2zbCURSIVE LETTER AbEbIbObYAcWAcBAcPAcMA
cNAbEcRAcLAcKHAdHHAdSAcARCHAIC SAkSEcKAcQAcTAbEbOcDAjFRACTION ELEVEN TWELFTHS@68028pONE HALF
rLOGOGRAM RMTdIMNmNUMBER ONEdTWOcHREEfFOURdIVEeSIXcEVENfEIGHTfNINEeTENcWENTYfHIRTYgFORTYeIFTY
fSIXTYeEVENTYhONE HUNDRED@68050lTWO HUNDREDkHREE HUNDREDnFOUR HUNDREDlIVE HUNDREDmSIX HUNDRED
kEVEN HUNDREDnEIGHT HUNDREDnNINE HUNDREDmONE THOUSANDmTWO THOUSANDlHREE THOUSANDoFOUR THOUSAND
mIVE THOUSANDnSIX THOUSANDlEVEN THOUSANDoEIGHT THOUSANDoNINE THOUSANDnTEN THOUSANDlWENTY THOUSAND
oHIRTY THOUSANDpFORTY THOUSANDnIFTY THOUSANDoSIXTY THOUSANDnEVENTY THOUSANDqEIGHTY THOUSAND
pNINETY THOUSANDpONE HUNDRED THOUSANDuTWO HUNDRED THOUSANDtHREE HUNDRED THOUSAND
wFOUR HUNDRED THOUSANDuIVE HUNDRED THOUSANDvSIX HUNDRED THOUSANDtEVEN HUNDRED THOUSAND
wEIGHT HUNDRED THOUSANDwNINE HUNDRED THOUSANDzdFRACTION ONE TWELFTHlTWO TWELFTHSlHREE TWELFTHS
oFOUR TWELFTHSmIVE TWELFTHSnSIX TWELFTHSlEVEN TWELFTHSoEIGHT TWELFTHSoNINE TWELFTHSnTEN TWELFTHS
znKHAROSHTHI LETTER AiVOWEL SIGN IbUbVOCALIC RjE@68101bOgLENGTH MARK@68108rSIGN DOUBLE RING BELOW
rANUSVARAiVISARGAmLETTER KAbHAdGAbHAdCA@68117bHAdJAcNYA@68121dTTAbHAeDDAbHAeNNAdTAbHAdDAbHAdNAcPA
bHAdBAbHAdMAcYAcRAcLAcVAcSHAcSAcAcZAcHAcKKAdTTTHAcAeVHAkSIGN BAR ABOVE@68152jCAUDAfDOT BELOW
oVIRAMA@68159gDIGIT ONEdTWOcHREEfFOURkNUMBER TENcWENTYgONE HUNDREDhTHOUSANDtFRACTION ONE HALF
rPUNCTUATION DOT@68176dSMALL CIRCLEmCIRCLEfRESCENT BARmMANGALAMiLOTUSfDANDAeOUBLE DANDAmLINES
zdOLD SOUTH ARABIAN LETTER HE@68192cLAMEDHgHETHeMEMdQOPHeWAWdSHINeRESHeBETHeTAWdSATdKAPHeNUNdKHETH
fSADHEdMEKHgFEcALEFdYNdDHADHEgGIMELfDALETHgGHAYNfTETHeZAYNeDHALETHhYODHeTHAWcETHmNUMBER ONEdFIFTY
jERIC INDICATORzgNORTH ARABIAN LETTER HEHdLAMdHAHdMEEMeQAFdWAWdES-2eREHdBEHdTEHdES-1eKAFdNOONeKHAH
eSADdES-3eFEHdALEFdINdDADdGEEMeDALdGHAINfTAHdZAINeTHALeYEHdTHEHeZAHkNUMBER ONEdTENcWENTY
zgMANICHAEAN LETTER ALEPH@68288fBETHdHETHfGIMELeHIMELgDALETHgHEcWAWkSIGN UDhLETTER ZAYINeHAYIN
gJAYINeHAYINgHETHeTETHeYODHeKAPHeXAPHeKHAPHfLAMEDHgDHAMEDHhTHAMEDHhMEMdNUNdSAMEKHgAYINdAYINfPEcFE
cSADHEfQOPHeXOPHeQHOPHfRESHeSHINdSHINfTAWkABBREVIATION MARK ABOVEfBELOWxNUMBER ONE@68331dFIVEeTEN
cWENTYgONE HUNDREDsPUNCTUATION STAReFLEURONhDOUBLE DOT WITHIN DOTtT WITHIN DOTl@68340dTWO DOTS
iLINE FILLERzjAVESTAN LETTER A@68352aAbObAOcNbANcEaEdEaEcOaOcIaIcUaUcKEcXEbYEcVEdGEbGEcHEdCEcJEcTE
bHEdDEbHEdTTEdPEcFEcBEbHEdNGEbYEcVEdEbYEcNEdMEcHMEdYYEcEcVEcREcLEcSEcZEcSHEdZHEdSHYEdSHEeHE
jABBREVIATION MARK@68409zaTINY TWO DOTS OVER ONE DOT PUNCTUATION
znSMALL TWO DOTS OVER ONE DOT PUNCTUATIONzoLARGE TWO DOTS OVER ONE DOT PUNCTUATION
ziONE DOT OVER TWO DOTS PUNCTUATIONziTWO RINGS OVER ONE RING PUNCTUATION
zkONE RING OVER TWO RINGS PUNCTUATIONzqINSCRIPTIONAL PARTHIAN LETTER ALEPHfBETHeGIMELfDALETHgHE
cWAWdZAYINfHETHeTETHeYODHeKAPHeLAMEDHgMEMdNUNdSAMEKHgAYINePEcSADHEfQOPHeRESHeSHINeTAW
kNUMBER ONE@68440dTWOcHREEfFOUReTENcWENTYgONE HUNDREDhTHOUSANDzbHLAVI LETTER ALEPHfBETHeGIMEL
fDALETHgHEcWAW-AYIN-RESHnZAYINfHETHeTETHeYODHeKAPHeLAMEDHgMEM-QOPHiNUNdSAMEKHgPEcSADHEeHINeTAW
kNUMBER ONE@68472dTWOcHREEfFOUReTENcWENTYgONE HUNDREDhTHOUSANDzqPSALTER PAHLAVI LETTER ALEPHfBETH
eGIMELfDALETHgHEcWAW-AYIN-RESHnZAYINfHETHeYODHeKAPHeLAMEDHgMEM-QOPHiNUNdSAMEKHgPEcSADHEeHINeTAW
kSECTION MARK@68505mTURNED SECTION MARKtFOUR DOTS WITH CROSSfDOTsNUMBER ONE@68521dTWOcHREEfFOUR
eTENcWENTYgONE HUNDREDzjOLD TURKIC LETTER ORKHON A@68608iYENISEI AaEkORKHON IiYENISEI IbEjORKHON O
aEjYENISEI OEkORKHON ABjYENISEI ABkORKHON AEBkYENISEI AEBlORKHON AGjYENISEI AGkORKHON AEG
kYENISEI AEGlORKHON ADjYENISEI ADkORKHON AEDdEZjYENISEI EZkORKHON AYjYENISEI AYkORKHON AEY
kYENISEI AEYlORKHON AEKkYENISEI AEKlORKHON OEKkYENISEI OEKlORKHON ALjYENISEI ALkORKHON AELdELTcM
cANbENkYENISEI AENlORKHON ENTkYENISEI ENTlORKHON ENCkYENISEI ENClORKHON ENYkYENISEI ENYdANG
lORKHON ENGkYENISEI AENGmORKHON EPcOPcICcECjYENISEI ECkORKHON AQjYENISEI AQkORKHON IQjYENISEI IQ
kORKHON OQjYENISEI OQkORKHON ARjYENISEI ARkORKHON AERcSbEScSHkYENISEI ASHlORKHON ESHkYENISEI ESH
lORKHON ATjYENISEI ATkORKHON AETkYENISEI AETlORKHON OTcBASHzaHUNGARIAN CAPITAL LETTER A@68736aAcEB
cAMBdECbNCcCScDcANDdEbCLOSE EhEEbFbGaYcHcIaIcEJbKcAKcUNKdELaYcMbNaYdOaOcNIKOLSBURG OEnRUDIMENTA OE
mOEEdEPbMPcRcSHORT ERiESaZcTbNTcTYcCHdUaUcNIKOLSBURG UEnRUDIMENTA UEmEVbZaScNT-SHAPED SIGNpUS
rSMALL LETTER A@68800aAcEBcAMBdECbNCcCScDcANDdEbCLOSE EhEEbFbGaYcHcIaIcEJbKcAKcUNKdELaYcMbNaYdOaO
cNIKOLSBURG OEnRUDIMENTA OEmOEEdEPbMPcRcSHORT ERiESaZcTbNTcTYcCHdUaUcNIKOLSBURG UEnRUDIMENTA UEmEV
bZaScNT-SHAPED SIGNpUSpNUMBER ONE@68858dFIVEeTENdFIFTYfONE HUNDREDhTHOUSAND
ziHANIFI ROHINGYA LETTER AbBAcPAcTAbTAdJAcCAcHAcKHAdFAcDAbDAdRAbRAdZAcSAbHAdKAcGAcLAcMAcNAcWA
cKINNA WAiYAcKINNA YAiNGAcYAdVAjVOWEL AbIbUbEbOhMARK SAKINfNA KHONNAoSIGN HARBAHAYiTAHALAeNAcSSI
kDIGIT ZERO@68912eONEdTWOcHREEfFOURdIVEeSIXcEVENfEIGHTfNINEzbRUMI DIGIT ONE@69216dTWOcHREEfFOUR
dIVEeSIXcEVENfEIGHTfNINEkNUMBER TENcWENTYfHIRTYgFORTYeIFTYfSIXTYeEVENTYhEIGHTYgNINETYgONE HUNDRED
lTWO HUNDREDkHREE HUNDREDnFOUR HUNDREDlIVE HUNDREDmSIX HUNDREDkEVEN HUNDREDnEIGHT HUNDRED
nNINE HUNDREDtFRACTION ONE HALFeQUARTERhTHIRDjTWO THIRDSyYEZIDI LETTER ELIF@69248eBEcPEbHEdTHEdSE
cCIMcHIMcHIMfHHAdXAcDALdZALdRAbHAdZAcJAcSINcHINdADdDADdTAcZEcEYNdXHEYNfFAcVAa ALTERNATE FORMrQAF
dKAFcHAFeGAFdLAMdMIMdNUNdUMcWAWdOWcEWcHAYdYOTdETjCOMBINING HAMZA MARK@69291kMADDA MARK
uHYPHENATION MARKqLETTER LAM WITH DOT ABOVE@69296sYOT WITH CIRCUMFLEX ABOVE
zoOLD SOGDIAN LETTER ALEPH@69376fFINAL ALEPHlBETHeFINAL BETHkGIMELfHEcFINAL HEiWAWdZAYINfHETHeYODH
eKAPHeLAMEDHgMEMdNUNdFINAL NUNa WITH VERTICAL TAILzdSAMEKHgAYINdLTERNATE AYINoPEcSADHEfFINAL SADHE
a WITH VERTICAL TAILzfRESH-AYIN-DALETHqSHINeTAWdFINAL TAWa WITH VERTICAL TAILzkNUMBER ONEdTWOcHREE
fFOURdIVEeTENcWENTYfHIRTYgONE HUNDREDsFRACTION ONE HALFrLIGATURE AYIN-DALETH
zhSOGDIAN LETTER ALEPH@69424fBETHeGIMELfHEcWAWdZAYINfHETHeYODHeKAPHeLAMEDHgMEMdNUNdSAMEKHgAYINePE
cSADHEfRESH-AYINjSHINeTAWdFETHeLESHlINDEPENDENT SHINqCOMBINING DOT BELOWjTWO DOTS BELOWoDOT ABOVE
jTWO DOTS ABOVEoCURVE ABOVEfBELOWlHOOK ABOVEfBELOWkLONG HOOK BELOWpRESH BELOWkSTROKE BELOW
wNUMBER ONEdTENcWENTYgONE HUNDREDsPUNCTUATION TWO VERTICAL BARSa WITH DOTSzcCIRCLE WITH DOT
pTWO CIRCLES WITH DOTSvHALF CIRCLE WITH DOTzpOLD UYGHUR LETTER ALEPH@69488fBETHeGIMEL-HETHkWAW
dZAYINfFINAL HETHkYODHeKAPHeLAMEDHgMEMdNUNdSAMEKHgPEcSADHEfRESHeSHINeTAWdLESHlCOMBINING DOT ABOVE
fBELOWjTWO DOTS ABOVEfBELOWyPUNCTUATION BARdTWO BARSeDOTSiFOUR DOTSzhCHORASMIAN LETTER ALEPH@69552
fSMALL ALEPHlBETHeGIMELfDALETHgHEcWAWdCURLED WAWkZAYINfHETHeYODHeKAPHeLAMEDHgMEMdNUNdSAMEKHgAYIN
ePEcRESHeSHINeTAWkNUMBER ONEdTWOcHREEfFOUReTENcWENTYgONE HUNDREDzeELYMAIC LETTER ALEPH@69600fBETH
eGIMELfDALETHgHEcWAWdZAYINfHETHeTETHeYODHeKAPHeLAMEDHgMEMdNUNdSAMEKHgAYINePEcSADHEfQOPHeRESHeSHIN
eTAWjIGATURE ZAYIN-YODHzcBRAHMI SIGN CANDRABINDU@69632lANUSVARAiVISARGAhJIHVAMULIYAlUPADHMANIYA
qLETTER AaAcIaIcUaUcVOCALIC RaRcLaLkEbAIcObAUcKAbHAdGAbHAdNGAdCAbHAdJAbHAdNYAdTTAbHAeDDAbHAeNNAdTA
bHAdDAbHAdNAcPAbHAdBAbHAdMAcYAcRAcLAcVAcSHAcSAcAcHAcLLAdOLD TAMIL LLLAeRRAdNNNAvVOWEL SIGN AA
cBHATTIPROLU AAoIaIcUaUcVOCALIC RaRcLaLkEbAIcObAUmIRAMAgDANDAeOUBLE DANDAmPUNCTUATION DOTbUBLE DOT
kLINEeCRESCENT BARmLOTUSrNUMBER ONE@69714dTWOcHREEfFOURdIVEeSIXcEVENfEIGHTfNINEeTENcWENTYfHIRTY
gFORTYeIFTYfSIXTYeEVENTYhEIGHTYgNINETYgONE HUNDREDhTHOUSANDtDIGIT ZEROeONEdTWOcHREEfFOURdIVEeSIX
cEVENfEIGHTfNINEkSIGN OLD TAMIL VIRAMAvLETTER OLD TAMIL SHORT EbOyVOWEL SIGN OLD TAMIL SHORT EbO
zdLETTER OLD TAMIL LLAuNUMBER JOINER@69759uKAITHI SIGN CANDRABINDUlANUSVARAiVISARGAmLETTER AaAcIaI
cUaUcEbAIcObAUcKAbHAdGAbHAdNGAdCAbHAdJAbHAdNYAdTTAbHAeDDAbDHAdHAeRHAdNNAdTAbHAdDAbHAdNAcPAbHAdBA
bHAdMAcYAcRAcLAcVAcSHAcSAcAcHAjVOWEL SIGN AAcIaIcUaUcEbAIcObAUnSIGN VIRAMAgNUKTAkABBREVIATION SIGN
rENUMERATION SIGNqNUMBER SIGNlSECTION MARKmDOUBLE SECTION MARKsANDAeOUBLE DANDA
mVOWEL SIGN VOCALIC RuNUMBER SIGN ABOVE@69837ySORA SOMPENG LETTER SAH@69840dTAHdBAHdCAHdDAHdGAH
dMAHdNGAHeLAHdNAHdVAHdPAHdYAHdRAHdHAHdKAHdJAHdNYAHeAHcEEHdIHcUHcOHcEHcMAEkDIGIT ZERO@69872eONEdTWO
cHREEfFOURdIVEeSIXcEVENfEIGHTfNINExCHAKMA SIGN CANDRABINDU@69888lANUSVARAiVISARGAmLETTER AAcIbUbE
bKAAcHAAeGAAcHAAeNGAAeCAAcHAAeJAAcHAAeNYAAeTTAAcHAAfDDAAcHAAfNNAAeTAAcHAAeDAAcHAAeNAAdPAAcHAAeBAA
cHAAeMAAdYYAAdAAdRAAdLAAdWAAdSAAdHAAkVOWEL SIGN AbIaIcUaUcEbAIcObAUcOInO MARKgAU MARKhVIRAMA
gMAAYYAAhDIGIT ZERO@69942eONEdTWOcHREEfFOURdIVEeSIXcEVENfEIGHTfNINEkSECTION MARKmDANDAeOUBLE DANDA
mQUESTION MARKnLETTER LHAAlVOWEL SIGN AAcEInLETTER VAArMAHAJANI LETTER A@69968bIbUbEbObKAbHAdGAbHA
dCAbHAdJAbHAdNYAdTTAbHAeDDAbHAeNNAdTAbHAdDAbHAdNAcPAbHAdBAbHAdMAcRAcLAcVAcSAcHAcRRAkSIGN NUKTA
kABBREVIATION SIGNrSECTION MARKmLIGATURE SHRIwSHARADA SIGN CANDRABINDU@70016lANUSVARAiVISARGA
mLETTER AaAcIaIcUaUcVOCALIC RaRcLaLkEbAIcObAUcKAbHAdGAbHAdNGAdCAbHAdJAbHAdNYAdTTAbHAeDDAbHAeNNAdTA
bHAdDAbHAdNAcPAbHAdBAbHAdMAcYAcRAcLAbLAdVAcSHAcSAcAcHAjVOWEL SIGN AAcIaIcUaUcVOCALIC RaRcLaLkEbAI
cObAUnSIGN VIRAMAgAVAGRAHAiJIHVAMULIYAlUPADHMANIYAqOMcDANDAeOUBLE DANDAmABBREVIATION SIGN
rSEPARATORiANDHI MARKkIGN NUKTAkVOWEL MODIFIER MARKtEXTRA SHORT VOWEL MARKwSUTRA MARK
kVOWEL SIGN PRISHTHAMATRA EzbSIGN INVERTED CANDRABINDUzaDIGIT ZEROeONEdTWOcHREEfFOURdIVEeSIXcEVEN
fEIGHTfNINEkEKAMeSIGN SIDDHAMmHEADSTROKEkCONTINUATION SIGNrSECTION MARK-1b2
vINHALA ARCHAIC DIGIT ONE@70113dTWOcHREEfFOURdIVEeSIXcEVENfEIGHTfNINEkNUMBER TENcWENTYfHIRTYgFORTY
eIFTYfSIXTYeEVENTYhEIGHTYgNINETYgONE HUNDREDhTHOUSANDzkKHOJKI LETTER A@70144aAcIbUbEbAIcObAUcKAbHA
dGAbGAcHAdNGAdCAbHAdJAbJAdNYA@70163dTTAbHAeDDAbHAeNNAdTAbHAdDAbDDAdHAdNAcPAbHAdBAbBAcHAdMAcYAcRA
cLAcVAcSAcHAcLLAkVOWEL SIGN AAcIaIcUbEbAIcObAUnSIGN ANUSVARAiVIRAMAgNUKTAfSHADDAlDANDAeOUBLE DANDA
mWORD SEPARATORoSECTION MARKmDOUBLE SECTION MARKtABBREVIATION SIGNrSIGN SUKUN
rMULTANI LETTER A@70272bIbUbEbKAbHAdGAbHA@70280dCA@70282bHAdJAbJAdNYA@70287dTTAbHAeDDAbDAcHAeNNA
dTAbHAdDAbHAdNAcPAbHAdBAbHA@70303dMAcYAcRAcLAcVAcSAcHAcRRAcHAkSECTION MARK
uKHUDAWADI LETTER A@70320aAcIaIcUaUcEbAIcObAUcKAbHAdGAbGAcHAdNGAdCAbHAdJAbJAcHAdNYAdTTAbHAeDDAbDA
eRRAdDDHAeNNAdTAbHAdDAbHAdNAcPAbHAdBAbBAcHAdMAcYAcRAcLAcVAcSHAcAcHAjSIGN ANUSVARAnVOWEL SIGN AAcI
aIcUaUcEbAIcObAUnSIGN NUKTAfVIRAMAlDIGIT ZERO@70384eONEdTWOcHREEfFOURdIVEeSIXcEVENfEIGHTfNINE
uGRANTHA SIGN COMBINING ANUSVARA ABOVE@70400xANDRABINDUlANUSVARAiVISARGAmLETTER A@70405aAcIaIcUaU
cVOCALIC RbLjEE@70415cAIcOO@70419cAUcKAbHAdGAbHAdNGAdCAbHAdJAbHAdNYAdTTAbHAeDDAbHAeNNAdTAbHAdDAbHA
dNAcPA@70442bHAdBAbHAdMAcYAcRAcLA@70450bLAdVA@70453cSHAcSAcAcHArCOMBINING BINDU BELOW@70459
vGRANTHA SIGN NUKTAfAVAGRAHAnVOWEL SIGN AAcIaIcUaUcVOCALIC RaRkEE@70471cAIcOO@70475cAUnSIGN VIRAMA
lOM@70480cAU LENGTH MARK@70487oSIGN PLUTA@70493kLETTER VEDIC ANUSVARAiDOUBLE ANUSVARAuOCALIC RRcLL
rVOWEL SIGN VOCALIC LaLzeCOMBINING GRANTHA DIGIT ZERO@70502eONEdTWOcHREEfFOURdIVEeSIX
jLETTER A@70512bKAcNAcVIcPAzcNEWA LETTER A@70656aAcIaIcUaUcVOCALIC RaRcLaLkEbAIcObAUcKAbHAdGAbHA
dNGAbHAeCAbHAdJAbHAdNYAbHAeTTAbHAeDDAbHAeNNAdTAbHAdDAbHAdNAbHAdPAbHAdBAbHAdMAbHAdYAcRAbHAdLAbHAdWA
cSHAcSAcAcHAjVOWEL SIGN AAcIaIcUaUcVOCALIC RaRcLaLkEbAIcObAUnSIGN VIRAMAgCANDRABINDUlANUSVARA
iVISARGAhNUKTAfAVAGRAHAiFINAL ANUSVARAtOMcSIDDHIgDANDAeOUBLE DANDAmCOMMAfGAP FILLER
kABBREVIATION SIGNrDIGIT ZEROeONEdTWOcHREEfFOURdIVEeSIXcEVENfEIGHTfNINEjOUBLE COMMA
mPLACEHOLDER MARKqINSERTION SIGN@70749oSANDHI MARKlLETTER VEDIC ANUSVARAvSIGN JIHVAMULIYA
lUPADHMANIYAvTIRHUTA ANJI@70784eLETTER AaAcIaIcUaUcVOCALIC RaRcLaLkEbAIcObAUcKAbHAdGAbHAdNGAdCAbHA
dJAbHAdNYAdTTAbHAeDDAbHAeNNAdTAbHAdDAbHAdNAcPAbHAdBAbHAdMAcYAcRAcLAcVAcSHAcSAcAcHAjVOWEL SIGN AAcI
aIcUaUcVOCALIC RaRcLaLkEbSHORT EhAIcObSHORT OhAUnSIGN CANDRABINDUlANUSVARAiVISARGAfRAMAgNUKTA
fAVAGRAHAnGVANGfABBREVIATION SIGNrOMcDIGIT ZERO@70864eONEdTWOcHREEfFOURdIVEeSIXcEVENfEIGHTfNINE
sSIDDHAM LETTER A@71040aAcIaIcUaUcVOCALIC RaRcLaLkEbAIcObAUcKAbHAdGAbHAdNGAdCAbHAdJAbHAdNYAdTTAbHA
eDDAbHAeNNAdTAbHAdDAbHAdNAcPAbHAdBAbHAdMAcYAcRAcLAcVAcSHAcSAcAcHAjVOWEL SIGN AAcIaIcUaUcVOCALIC R
aRkE@71096bAIcObAUnSIGN CANDRABINDUlANUSVARAiVISARGAfRAMAgNUKTAfSIDDHAMmDANDAeOUBLE DANDA
mSEPARATOR DOTdBARnREPETITION MARK-1b2b3rEND OF TEXT MARK
qSECTION MARK WITH TRIDENT AND U-SHAPED ORNAMENTSsDOTTED CRESCENTSzdRAYS AND DOTTED CRESCENTS
jDOUBLE CRESCENTSqTRIPLE CRESCENTSzmDOUBLE RINGa WITH RAYSvWITH DOUBLE CRESCENTSqTRIPLE CRESCENTS
qQUADRUPLE CRESCENTStSEPTUPLE CRESCENTSsCIRCLES AND RAYSeTWO ENCLOSURESoFOUR ENCLOSURES
zuLETTER THREE-CIRCLE ALTERNATE IxWO-CIRCLE ALTERNATE IaIxALTERNATE UsVOWEL SIGN ALTERNATE UaU
zgMODI LETTER A@71168aAcIaIcUaUcVOCALIC RaRcLaLkEbAIcObAUcKAbHAdGAbHAdNGAdCAbHAdJAbHAdNYAdTTAbHA
eDDAbHAeNNAdTAbHAdDAbHAdNAcPAbHAdBAbHAdMAcYAcRAcLAcVAcSHAcSAcAcHAcLLAkVOWEL SIGN AAcIaIcUaU
cVOCALIC RaRcLaLkEbAIcObAUnSIGN ANUSVARAiVISARGAfRAMAgARDHACANDRAqDANDAeOUBLE DANDA
mABBREVIATION SIGNrSIGN HUVAjDIGIT ZERO@71248eONEdTWOcHREEfFOURdIVEeSIXcEVENfEIGHTfNINE
nNGOLIAN BIRGA WITH ORNAMENT@71264tROTATED BIRGAnDOUBLE BIRGA WITH ORNAMENT
zbTRIPLE BIRGA WITH ORNAMENTzbBIRGA WITH DOUBLE ORNAMENTzbROTATED BIRGA WITH ORNAMENT
iDOUBLE ORNAMENTzjINVERTED BIRGAa WITH DOUBLE ORNAMENTzkSWIRL BIRGAa WITH ORNAMENTiDOUBLE ORNAMENT
zhTURNED SWIRL BIRGA WITH DOUBLE ORNAMENTzyTAKRI LETTER A@71296aAcIaIcUaUcEbAIcObAUcKAbHAdGAbHA
dNGAdCAbHAdJAbHAdNYAdTTAbHAeDDAbHAeNNAdTAbHAdDAbHAdNAcPAbHAdBAbHAdMAcYAcRAcLAcVAcSHAcAcHAcRRA
kSIGN ANUSVARAiVISARGAmVOWEL SIGN AAcIaIcUaUcEbAIcObAUnSIGN VIRAMAgNUKTAkLETTER ARCHAIC KHA
sABBREVIATION SIGNrDIGIT ZERO@71360eONEdTWOcHREEfFOURdIVEeSIXcEVENfEIGHTfNINEqAHOM LETTER KA@71424
bHAdNGAcAcTAcALTERNATE TAmPAbHAdBAcMAcJAcCHAdTHAdRAcLAcSAcNYAdHAcAbDAbHAdGAcALTERNATE GAmGHAdBHA
dJHAdALTERNATE BAtCONSONANT SIGN MEDIAL LA@71453cRAcLIGATING RAziVOWEL SIGN AaAcIaIcUaUcEbAWcObAI
bMnSIGN KILLERlDIGIT ZERO@71472eONEdTWOcHREEfFOURdIVEeSIXcEVENfEIGHTfNINEkNUMBER TENcWENTY
nSIGN SMALL SECTIONmECTIONhRULAIjYMBOL VIjLETTER CAcTTAbHAeDDAbHAeNNAdLLApDOGRA LETTER A@71680aAcI
aIcUaUcEbAIcObAUcKAbHAdGAbHAdNGAdCAbHAdJAbHAdNYAdTTAbHAeDDAbHAeNNAdTAbHAdDAbHAdNAcPAbHAdBAbHAdMA
cYAcRAcLAcVAcSHAcSAcAcHAcRRAkVOWEL SIGN AAcIaIcUaUcVOCALIC RaRkEbAIcObAUnSIGN ANUSVARAiVISARGA
fRAMAgNUKTAkABBREVIATION SIGNxWARANG CITI CAPITAL LETTER NGAA@71840eAbWIcYUbAbOcIIcUUcEbObANGdGA
cKOcENYdYUJdUCcENNdODDdTTEdNUNGeDAcATbMcBUcPUcHIYOdOLOcRRdARdSSUUdIIdVIYOtSMALL LETTER NGAAeAbWI
cYUbAbOcIIcUUcEbObANGdGAcKOcENYdYUJdUCcENNdODDdTTEdNUNGeDAcATbMcBUcPUcHIYOdOLOcRRdARdSSUUdIIdVIYO
rDIGIT ZEROeONEdTWOcHREEfFOURdIVEeSIXcEVENfEIGHTfNINEkNUMBER TENcWENTYfHIRTYgFORTYeIFTYfSIXTY
eEVENTYhEIGHTYgNINETYnOM@71935oDIVES AKURU LETTER AaAcIaIcUaUcEbO@71945bKA@71948bHAdGAbHAdNGAdCA
bHAdJAcNYA@71957dTTAdDDA@71960bHAeNNAdTAbHAdDAbHAdNAcPAbHAdBAbHAdMAcYAbYAdRAcLAcVAcSHAcSAcAcHAcLLA
dZAjVOWEL SIGN AAcIaIcUaUcEbAI@71991cOmSIGN ANUSVARA@71995iCANDRABINDUlHALANTAmVIRAMA
gPREFIXED NASAL SIGNtMEDIAL YAjINITIAL RAkMEDIAL RAjSIGN NUKTAkDOUBLE DANDAmGAP FILLER
kEND OF TEXT MARKqDIGIT ZERO@72016eONEdTWOcHREEfFOURdIVEeSIXcEVENfEIGHTfNINE
wNANDINAGARI LETTER A@72096aAcIaIcUaUcVOCALIC RaRkE@72106bAIcObAUcKAbHAdGAbHAdNGAdCAbHAdJAbHAdNYA
dTTAbHAeDDAbHAeNNAdTAbHAdDAbHAdNAcPAbHAdBAbHAdMAcYAcRAcLAcVAcSHAcSAcAcHAcLLAdRRAkVOWEL SIGN AAcIaI
cUaUcVOCALIC RaRkE@72154bAIcObAUnSIGN ANUSVARAiVISARGAfRAMAgAVAGRAHAiSIDDHAMmHEADSTROKE
kVOWEL SIGN PRISHTHAMATRA EznZANABAZAR SQUARE LETTER A@72192iVOWEL SIGN IbUEb@72195bEbOEb@72198bAI
bUcREVERSED IpLENGTH MARKrLETTER KAbHAdGAbHAdNGAdCAbHAdJAcNYAdTTAbHAeDDAbHAeNNAdTAbHAdDAbHAdNAcPA
bHAdBAbHAdMAcTSAbHAeDZAbHAeZHAcAc-AcYAcRAcLAcVAcSHAcSAcAcHAcKSSAlFINAL CONSONANT MARKuSIGN VIRAMA
gCANDRABINDUa WITH ORNAMENTt WITH ORNAMENTuANUSVARAiVISARGAmCLUSTER-INITIAL LETTER RA
rFINAL LETTER YAcRAcLAcVAxINITIAL HEAD MARKrCLOSING HEAD MARKrMARK TSHEGfSHADeDOUBLE SHAD
lLONG TSHEGpINITIAL DOUBLE-LINED HEAD MARKzfCLOSING DOUBLE-LINED HEAD MARKzfSUBJOINER
zbSOYOMBO LETTER A@72272iVOWEL SIGN IbUEb@72275bEbOaEcAIbUcVOCALIC RbLoLENGTH MARKrLETTER KAbHAdGA
bHAdNGAdCAbHAdJAbHAdNYAdTTAbHAeDDAbHAeNNAdTAbHAdDAbHAdNAcPAbHAdBAbHAdMAcTSAbHAeDZAdZHAcAc-AcYAcRA
cLAcVAcSHAcSAcAcHAcKSSAlSIGN JIHVAMULIYAlUPADHMANIYAqCLUSTER-INITIAL LETTER RAcLAcSHAcA
zaFINAL CONSONANT SIGN GbKbNGcDbNbBbMbRbLbSHb@72340b-AxSIGN ANUSVARAiVISARGAmGEMINATION MARK
pSUBJOINERjMARK TSHEGfSHADeDOUBLE SHADlPLUTAkHEAD MARK WITH MOON AND SUN AND TRIPLE FLAMEmFLAME
k@72352zcTERMINAL MARK-1b2xCANADIAN SYLLABICS NATTILIK HI@72368aIcOaOcAaAdSHRIaIcOaOcAaAoSPEbIbObA
wPAU CIN HAU LETTER PAcKAcLAcMAcDAcZAcVAcNGAdHAcGAcKHAdSAcBAcCAcTAbHAdNAcPHAdRAcFAcCHAdAbEbIbObUaA
cIAcFINAL PbKbTbMbNbLbWbNGcYoRISING TONE LONGf@72422lSANDHI GLOTTAL STOPtRISING TONE LONG FINAL
kFINALrSANDHI GLOTTAL STOP FINALsTONE LONGf@72428a LONG FINALkFINALrMID-LEVEL TONE
oGLOTTAL STOP VARIANTuMID-LEVEL TONE LONG FINALkFINALuLOW-FALLING TONE LONGf@72436qGLOTTAL STOP
mLOW-FALLING TONE LONG FINALkFINALwGLOTTAL STOP FINALzfBHAIKSUKI LETTER A@72704aAcIaIcUaU
cVOCALIC RaRcLjE@72714bAIcObAUcKAbHAdGAbHAdNGAdCAbHAdJAbHAdNYAdTTAbHAeDDAbHAeNNAdTAbHAdDAbHAdNAcPA
bHAdBAbHAdMAcYAcRAcLAcVAcSHAcSAcAcHAjVOWEL SIGN AAcIaIcUaUcVOCALIC RaRcLjE@72760bAIcObAU
nSIGN CANDRABINDUlANUSVARAiVISARGAfRAMAgAVAGRAHAnDANDAeOUBLE DANDAmWORD SEPARATORoGAP FILLER-1b2
mDIGIT ZERO@72784eONEdTWOcHREEfFOURdIVEeSIXcEVENfEIGHTfNINEkNUMBER ONEdTWOcHREEfFOURdIVEeSIXcEVEN
fEIGHTfNINEeTENcWENTYfHIRTYgFORTYeIFTYfSIXTYeEVENTYhEIGHTYgNINETYnHUNDREDS UNIT MARK
zdMARCHEN HEAD MARK@72816jMARK SHADjLETTER KAbHAdGAcNGAdCAbHAdJAcNYAdTAbHAdDAcNAcPAbHAdBAcMAcTSA
bHAeDZAdWAcZHAcAc-AcYAcRAcLAcSHAcAcHAcAiSUBJOINED LETTER KA@72850bHAdGAcNGAdCAbHAdJAcNYAdTAbHAdDA
cNAcPAbHAdBAcMAcTSAbHAeDZAdWAcZHAcAcYA@72873cRAcLAcSHAcAcHAcAsVOWEL SIGN AAcIbUbEbOmSIGN ANUSVARA
iCANDRABINDUwSARAM GONDI LETTER A@72960aAcIaIcUaUcEbAI@72968cObAU@72971cKAbHAdGAbHAdNGAdCAbHAdJA
bHAdNYAdTTAbHAeDDAbHAeNNAdTAbHAdDAbHAdNAcPAbHAdBAbHAdMAcYAcRAcLAcVAcSHAcSAcAcHAcLLAdKSSAeJNYAeTRA
kVOWEL SIGN AAcIaIcUaUcVOCALIC RjE@73018bAI@73020cObAU@73023nSIGN ANUSVARAiVISARGAhNUKTAfCANDRA
gHALANTAmVIRAMAgREPHAeA-KARAhDIGIT ZERO@73040eONEdTWOcHREEfFOURdIVEeSIXcEVENfEIGHTfNINE
yGUNJALA GONDI LETTER A@73056aAcIaIcUaUcEE@73063cAIcOO@73066cAUcYAcVAcBAbHAdMAcKAbHAdTAbHAdLAcGA
bHAdDAbHAdNAcCAbHAdTTAbHAeLLAdJAbHAdDDAbHAeNGAdPAbHAdHAcRAcSAjVOWEL SIGN AAcIaIcUaUcEE@73104cAI
cOO@73107cAUnSIGN ANUSVARAiVISARGAmVIRAMAgOMcDIGIT ZERO@73120eONEdTWOcHREEfFOURdIVEeSIXcEVENfEIGHT
fNINEyMAKASAR LETTER KA@73440cGAcNGAdPAcBAcMAcTAcDAcNAcCAcJAcNYAdYAcRAcLAcVAcSAcAiANGKA
fVOWEL SIGN IbUbEbOmPASSIMBANGkEND OF SECTIONwLISU LETTER YHA@73648
pTAMIL FRACTION ONE THREE-HUNDRED-AND-TWENTIETH@73664zcONE-HUNDRED-AND-SIXTIETHyEIGHTIETH
jSIXTY-FOURTHmFORTIETHiTHIRTY-SECONDrTHREE EIGHTIETHSkSIXTY-FOURTHStONE TWENTIETHjSIXTEENTH-1b2
lTENTHfEIGHTHkTHREE TWENTIETHSkSIXTEENTHSqONE FIFTHfQUARTERhHALF-1b2kTHREE QUARTERS
oDOWNSCALING FACTOR KIIZHziSIGN NELdCEVITUgAAZHAAKKUjUZHAKKUhMUUVUZHAKKUlKURUNIgPATHAKKUiMUKKURUNI
jKAACUfPANAMeONdVARAAKANiPAARAMgKUZHIfVELIjWET CULTIVATION SIGNuDRY CULTIVATION SIGNuLAND SIGN
jSALT PAN SIGNnTRADITIONAL CREDIT SIGNlNUMBER SIGNxCURRENT SIGNmAND ODD SIGNmSPENT SIGNkTOTAL SIGN
kIN POSSESSION SIGNsSTARTING FROM SIGNrIGN MUTHALIYAjVAKAIYARAApPUNCTUATION END OF TEXT@73727
zeCUNEIFORM SIGN Aa TIMES AbBADdGAN2 TENUjHAcIGIdLAGAR GUNUkMUSHeSAGk2bBa TIMES ASH2eDUN3 GUNUjGAL
bN2 TENUjHAcIGI GUNUhMINeLAGABfSHESHfU PLUS U PLUS UvGUNUf2a TIMES BALAGfGAN2 TENUjME PLUS ENkSHA3
eTAK4nDbKa TIMES ERIN2fSHITA PLUS GISHxLa TIMES ALcDIM2eGISHeHAcKAD3dIcSHEdUSHkANcEPHeMAR
a TIMES SHEnNa OVER ANhTHREE TIMESlPLUS NAGA OPPOSING AN PLUS NAGAvSQUAREDsSHEePINdRADa TIMES KUR
mKABeSAL2dHa ZIDA TENUjKABA TENUjOVER ASH TUG2 OVER TUG2 TUG2 OVER TUG2 PAPziOVER ASH
a CROSSING ASH OVER ASH OVER ASHzy2bGABgBAaDbG3cHAR2eLa OVER BALjAGdRaA2eIa TIMES AbGARdIGI GUNUqU
a OVER BU ABcUNkCROSSING BUmLUGa OVER BULUGoRa2eDAaGa KISIM5 TIMES A PLUS MASHkMAReBALAGeIcGA
a PLUS MASHlIaR2dUDdHAcIRa PLUS LUkKAKdLAbUa PLUS MASH2lMdNEcPAP PLUS PAPmSIcTAK4eU2 PLUS GIR2lSH
sMbRaA3b4eIaBbMa TIMES SHEk2cNa KASKAL U GUNU DISHuSHdUa OVER DUhGUNUeSHESHIGiBa TIMES ESH2l2cGaUD
dHbNa3a GUNUa GUNUl4cR2eEa TIMES PAPjOVER E NUN OVER NUNu2a TIMES A PLUS HA PLUS DArGARdMIcSALcHE
dUjDINdGIRdLbNa TIMES GAN2a TENUjMEiCROSSING ENlOPPOSING ENlSQUAREDjRENcIN2eSH2dZENa TIMES A
a PLUS LALa TIMES LALtNcBADdDUN3 GUNUa GUNUoHAa GUNUhIGI GUNUiKASKALa SQUAREDnU3dLAaL TIMES LALmI
bUcU2bDnGAa GUNUf2a TIMES A PLUS DA PLUS HAkHAcIGIjB2 TENU PLUS TABqNbSHa2 PLUS GALnBADbR PLUS RA
kURa PLUS RAlDAbIaM TIMES SHEmUBdELa PLUS LAjNa TIMES GAN2 TENUsGAN2 TENUhRcIa4a PLUS AiR2 PLUS SU
mHA PLUS LU PLUS ESH2sLa PLUS LAkI PLUS LIjUB2eIGI GUNUhSH PLUS HU PLUS ASHuKAKbSKALfIDa PLUS LAL
lU3 PLUS ANlLAcME PLUS ENjIcNUNa OVER NUNmPAcSALbRcHEa PLUS TURkIDdUMdTAK4eUaDa PLUS DUqOVER GA2
kBAa CROSSING GABAqDa OVER GAD GAR OVER GARxLa GAD OVER GAD GAR OVER GARzbAMdMbNa2a TENUeOVER GAN2
jCROSSING GAN2qRa3cSHANfESHTINa TIMES KURqIa TIMES EbUhCROSSING GIm4a OVER GI4iCROSSING GI4oDIMdR2
a GUNUg3a TIMES A PLUS IGIkGAN2 TENUjIGIdLU PLUS IGIlPAlSALcHa CROSSING GISHnTIMES BADdTAK4jENUiU
a CROSSING GUm2a TIMES KAKa TIMES IGI GUNUsNUNdSAL PLUS TUG2tGUNUgDa TIMES A PLUS KURkKUR
jOVER GUD LUGALqLbMa TIMES SHElRa7bUNbSHgHAa TENUeGUNUfLcIa TIMES ASHa2eBADdDISHeGADdKINdNUNdSHEdU
jUaB2a TIMES ANcHALdKASKALgLISHeUDlL2eIa AcBbDIMa OVER IDIM BURdSQUAREDvGaIa DIBdRI
cOVER IGI SHIR OVER SHIR UD OVER UDzjGUNUhLa TIMES GAN2 TENUq2cMa TIMES TAK4kCROSSING IM
lOPPOSING IMlSQUAREDiINdNbRbSHdKAa TIMES AaDa PLUS KU3kSH2eBADbLAGdRcIcERIN2eSH2eGAaLbN2 TENUhR
a PLUS SHA3 PLUS AtIaR2cSH PLUS SARiCROSSING GISHrUaR7eIGIcMcKAKcIaDdLIbUcMEa PLUS DUcGIcTEjI
a PLUS NUNUZnNEbUNdPIcRUcSAaRcHAbEbIDcUcIGcUHURfTARdUa2bDbMUM TIMES PAmSHdZIj2a CROSSING KA2oBbD2
b3b4b5a OVER KAD5mKa TIMES IGI GUNUqLa TIMES BADjCROSSING KALoM2b4cSKAL
a LAGAB TIMES U OVER LAGAB TIMES UzhOVER KASKAL LAGAB TIMES U OVER LAGAB TIMES UzzaESH2eI
a TIMES BADdUaDjDbNbSALcHbIM5a OVER KISIM5rUa OVER HI TIMES ASH2 KU OVER HI TIMES ASH2zq3b4
a VARIANT FORMo7bLa GUNUgNbRa OPPOSING KURoSHU2fWU318gLAaGABa TIMES Aa PLUS DA PLUS HAkGARdLALjLbN
bSH ZIDA TENUnBADcIcDARdENcGAaRcUDa PLUS GUDmHAaLcI TIMES NUNmIGI GUNUhMa PLUS HAcLUkKIaNcU3bL
a PLUS HI PLUS AsLAGABeISHdUaLdMEa PLUS ENjUSHeNEcSHE PLUS SUMkITA PLUS GISH PLUS ERIN2kTENUsU2
a PLUS SHU2nUMdTAGbK4dE PLUS A PLUS SU PLUS NAzaUa PLUS AbU PLUS Uo2 PLUS ASHkDbSHjSQUAREDjR
a TIMES SHEa PLUS SUMsGUNUa OVER LAGAR GUNU SHEzdHSHUeLa TIMES LALlMa TIMES KURa PLUS RUuIaLbMMU2
eSHdUa TIMES BADk2a TIMES ALcBADdESH2a TENUjGAN2 TENUjHI TIMES BADmIMcKAD2b3a PLUS ASHmI
cLA PLUS ASHjGABfME PLUS ENkNEbUcSI PLUS ASHjK2 PLUS BUmTUG2jENUeCROSSING LU2mOPPOSING LU2mSQUARED
gHESHIGj3bGALa OVER LUGALjPPOSING LUGALoSHESHIGlHbLbMa OVER LUMa GAR OVER GARzaMAa TIMES TAK4kGUNU
f2bHbRbSHa2eEaScIaNcUa OVER MUiGa GUNUgNSUBeRGU2eSHa TIMES AbKURdZAiOVER MUSHa TIMES A PLUS NA
zaCROSSING MUSHo3a TIMES Aa PLUS DIjDIiGUNUkNAa2bGAa INVERTEDiTIMES SHU TENUoOPPOSING NAGAoR
dM NUTILLUi@74310a2dEa TIMES AbUDiSHESHIGjIa TIMES Ei2bMa TIMES GAN2 TENUhR PLUS GAN2 TENUzbNDA2
a TIMES ANbSHa PLUS ASHmGUDdME PLUS GAN2 TENUrNEbUNdSHEa PLUS A ANdSHa PLUS ASHvU2 PLUS ASHkSHoSAG
eUa11cNa LAGAR TIMES GARdMASHeSALa OVER NUN LAGAR TIMES SALzdUSHpTENUeOVER NUNiCROSSING NUN
a LAGAR OVER LAGARzfUZa AB2 TIMES ASHGABgBIcDUGdGUDdIGI GUNUiKAD3eLAcNEcSILA3fU2mKISIM5 TIMES BI
a UxPAaDbNbPcESH2eIa TIMES AaBcBIbUcEbIaBcUa2iCROSSING PImRIGa TIMES KALdUDcZAiOPPOSING PIRIGuRAaB
cIbUcSAaG NUTILLUi@74389a TIMES AbDUaBdHAcKAKcURdLUMdMIcNUNdSALcHIDeTABdU2bBbMbRbSHjOVER SAGiGUNU
gLa LAGAB TIMES ASH2sNGA2eRcHAa3a TIMES AbBADdGISHeNEcSHU2eTURdUa PLUS Aq6bB6cR2dEa HU
cOVER SHE GAD OVER GAD GAR OVER GARzaTAB OVER TAB GAR OVER GARzkG9cNbSHa2bLAMgIDa TIMES AbIMkM
a TIMES AbBALcULUGfDINdGARdIGIa GUNUiKUSHU2gLULdMUGdSALlNIGdRa TENUeOVER SHIR BUR OVER BURyTAdU
a OVER INVERTED SHUs2bBURfIa GUNUfGa4a OVER SIG4 SHU2rK2cLA3eUa OVER SUiDa2cHURdMaASHeRa9eTA
a ASTERISKiTIMES HIcMIiGUNUfBa OVER TAB NI OVER NI DISH OVER DISHzjSQUAREDjGa TIMES BIcGUDdSHEbU
dTUG2eUDkK4cRcEa GUNUgIa TENUfLbRa TIMES TAK4kOVER TIRa GAD OVER GAD GAR OVER GARzmUaG2cKbMbR
a OVER TUR ZA OVER ZAxUa GUDdU UdOVER U PA OVER PA GAR OVER GARxSUR OVER SUR
mU REVERSED OVER U REVERSEDzj2bBbDa KUSHU2gTIMES BADdMIcU PLUS U PLUS Ua GUNUzbGUNUeSHESHIG
a TIMES BADsUGdMa TIMES LAGABfME PLUS DAkSHA3eUiBINdUMa TIMES KASKALgPAmNa GUNUgRa CROSSING UR
lSHESHIGi2a TIMES A PLUS HAcNAiLcHAcNUNdU2a PLUS ASHdBIs4bIa3cUa TIMES AaSHGABgBARdDUNdGAaL
bN2 TENUhRcUcHAcIGIcMbSHdKIcLUMdMINdPAcSHEcIG4eTUcU PLUS GUDjDbRUDAmDAa TIMES UmSHa TIMES AbKUaR
dTAK4lXb2bUMXfTUKIeZ3a TIMES KASKALoUdZAa TENUeSQUARED TIMES KURsGbMXdE2cIa OVER ZIi3bBa KABA TENU
lGbZ2dUa5a TIMES AjBURdMdKAP ELAMITElAB TIMES NUNk2 TIMES AkMAR TIMES KUG
oDAG KISIM5 TIMES U2 PLUS MASHzb3dISH PLUS SHUmUB TIMES SHEnEZEN TIMES GUDdSHE
oGA2 TIMES AN PLUS KAK PLUS ArSH2nE22dIGdHUSHeKA TIMES ANSHEeSH3eGISHdUDdHI TIMES ASH2nLUMdPAcSHUL
eTUcUR2mLAGAB TIMES GInU2 SHESHIG TIMES BADrTIMES ESH2 PLUS LALnSHUnMESHdUSH3 TIMES ZAoNA4cINa9
bDA2 TIMES BALdGIoU11 ROTATED NINETY DEGREESzcPESH2 ASTERISKnIR2eSAG TIMES IGI GUNUsTI2
dUM TIMES MEk UiNUMERIC SIGN TWO ASH@74752gHREE ASHjFOUR ASHhIVE ASHiSIX ASHgEVEN ASHjEIGHT ASH
jNINE ASHiTHREE DISHkFOUR DISHiIVE DISHjSIX DISHhEVEN DISHkEIGHT DISHkNINE DISHjFOUR UfIVE UgSIX U
eEVEN UhEIGHT UhNINE UgONE GESH2jTWO GESH2iHREE GESH2lFOUR GESH2jIVE GESH2kSIX GESH2iEVEN GESH2
lEIGHT GESH2lNINE GESH2kONE GESHUjTWO GESHUiHREE GESHUlFOUR GESHUjIVE GESHUkTWO SHAR2iHREE SHAR2
a VARIANT FORMyFOUR SHAR2jIVE SHAR2kSIX SHAR2iEVEN SHAR2lEIGHT SHAR2lNINE SHAR2kONE SHARU
jTWO SHARUiHREE SHARUa VARIANT FORMyFOUR SHARUjIVE SHARUkSHAR2 TIMES GAL PLUS DISHeMINyONE BURU
iTWO BURUhHREE BURUa VARIANT FORMxFOUR BURUiIVE BURUjTHREE VARIANT FORM ESH16c21
yFOUR VARIANT FORM LIMMUa4b AbBzaSIX VARIANT FORM ASH9uEVEN VARIANT FORM IMIN3b AbB
zaEIGHT VARIANT FORM USSUa3yNINE VARIANT FORM ILIMMUa3b4b AzbTWO ASH TENUlHREE ASH TENU
oFOUR ASH TENUmIVE ASH TENUnSIX ASH TENUmONE BAN2iTWO BAN2hHREE BAN2kFOUR BAN2a VARIANT FORM
vIVE BAN2a VARIANT FORMwNIGIDAMINdESHjONE ESHE3jTWO ESHE3jONE THIRD DISHoTWO THIRDS DISH
pFIVE SIXTHS DISHqONE THIRD VARIANT FORM AyTWO THIRDS VARIANT FORM AzaONE EIGHTH ASHkQUARTER ASH
oLD ASSYRIAN ONE SIXTHfQUARTERxNE QUARTER GURlHALF GURmELAMITE ONE THIRDjTWO THIRDSkFORTYeIFTY
nFOUR U VARIANT FORMsIVE U VARIANT FORMtSIX U VARIANT FORMrEVEN U VARIANT FORM
uEIGHT U VARIANT FORMuNINE U VARIANT FORMzhPUNCTUATION SIGN OLD ASSYRIAN WORD DIVIDER@74864
zaVERTICAL COLONoDIAGONAL COLONfTRICOLONiQUADCOLONzkSIGN AB TIMES NUN TENU@74880iSHU2mD TIMES ESH2
nBAD TIMES DISH TENUrHAR2 TIMES AB2dNIcZAoU OVER BU TIMES NA2uDA TIMES TAK4lG TIMES KUR
mIM TIMES IGIdU U Um2 TIMES UDmUG TIMES ANSHEeSHa AT LEFTlDINcUNdERIN2fGAbIaR2 GUNUhSHeHAbI
cIGI GUNUiKASKALfURbSHU2a PLUS KASKALsLAK-020fMa TIMES KURmUH PLUS GISHnMASHdEScIcNIcPIcSHEcI GUNU
rE2 TIMES KURdPAPlRIN2 XgSH2 CROSSING ESH2rZEN SHESHIG TIMES ASHdHIcIGI GUNUiLAaLdMEaSdSUqTIMES SU
nGA2 TIMES BAHAR2gDIM GUNUhUG TIMES IGI GUNUiKASKALqERENeGAaR PLUS DIcNElHA PLUS A
jKUSHU2 PLUS KASKALsLAMa TIMES KURmUHdMUSHeNEa PLUS E2cGIkSHIMeZIZ2mBA ROTATED NINETY DEGREES
zbESHTIN TIMES UoISH TIMES GISH CROSSING GISHzdU2 TIMES IGI GUNUqD PLUS GISH TIMES TAK4
yHA TENU GUNUlI TIMES ASH OVER HI TIMES ASHzfKA TIMES BUcKAcU U UeRlLAGAB TIMES ZU OVER ZUuK-003
c21b5c30c50b1c62c79 OVER LAK-079 GUNUu80b1 OVER LAK-081p92d130c42d210b9c20b5b8c38c65b6d343b7b8c83
b4c90d441b9a TIMES GUcIGIdPAP PLUS LU3dPAP PLUS LU3vU2 PLUS BAt50b7c70c83c90b2b3b5d550d608c17
a TIMES ASHdBADdDUN3 GUNU GUNUoKU3dLAcTARcEcU2bDbRUDAo36c48a TIMES DUBdGAcIGIa GUNUiNI
cPAP PLUS PAP PLUS LU3vSHESH PLUS KInUDbRUDAp724c49gU2 GUNU TIMES ASHoTIMES DISHeHALdPAP
a PLUS PAP PLUS LU3vTAK4oMI PLUS ZA7kUSH OVER MUSH TIMES GAcKAKyNINDA2 TIMES DIM GUNUiGISHdULdHI
cKESH2fLAK-050hMASHePAP PLUS PAPmUa PLUS UhRUDAsSAG GUNU TIMES HAnTIMES ENcSHE AT LEFTlTAK4
nHA6 TENUhE OVER SHEiPLUS HUB2eNAM2eSARkU2 PLUS DUG TIMES NImE2 TIMES ANuI TIMES TAK4
nTAK4 PLUS SAGmUM TIMES GAN2 TENUjTHREE DISHuUR2 INVERTEDiTIMES UDkU TIMES DARA3fLAK-668gU3nZA7
cU OVER ZU PLUS SARr5 TIMES THREE DISH TENUzoYPRO-MINOAN SIGN CM001@77712b2b4b5b6b7b8b9c10b1b2aBc3
b5b7b9c21b3b4b5b6b7b8b9c30b3b4b5b6b7b8b9c40b1b4b6b7b9c50b1b2b3b4b5b6b8b9c60b1b2b3b4b6b7b8b9c70b1b2
b3b4b5aBc6b8b9c80b1b2b3b4b5b6b7b8b9c90b1b2b4b5b6b7b8b9d100b1b2b3b4b5b7b8b9c10b2b4d301b2
xEGYPTIAN HIEROGLYPH A001@77824b2b3b4b5aAc6aAbBc7b8b9c10b1b2b3b4aAc5b6b7aAc8b9c20b1b2b3b4b5b6b7b8
b9c30b1b2aAc3b4b5b6b7b8b9c40aAc1b2aAc3aAc4b5aAc6b7b8b9c50b1b2b3b4b5b6b7b8b9c60b1b2b3b4b5b6b7b8b9
c70eB001b2b3b4b5aAc6b7b8b9eC001b2aAbBbCc3b4b5b6b7b8b9c10aAc1b2b3b4b5b6b7b8b9c20b1b2b3b4eD001b2b3b4
b5b6b7b8aAc9c10b1b2b3b4b5b6b7b8b9c20b1b2b3b4b5b6b7aAc8b9c30b1aAc2b3b4aAc5b6b7b8b9c40b1b2b3b4b5b6aA
c7b8aAc9c50aAbBbCbDbEbFbGbHbIc1b2aAc3b4aAc5b6b7b8b9c60b1b2b3b4b5b6b7aAbBbCbDbEbFbGbHfE001b2b3b4b5
b6b7b8aAc9aAd10b1b2b3b4b5b6aAc7aAc8b9c20aAc1b2b3b4b5b6b7b8aAc9c30b1b2b3b4aAc6b7b8eF001aAc2b3b4b5b6
b7b8b9c10b1b2b3aAc4b5b6b7b8b9c20b1aAc2b3b4b5b6b7b8b9c30b1aAc2b3b4b5b6b7aAc8aAc9c40b1b2b3b4b5aAc6aA
c7aAc8b9c50b1aAbBbCc2b3eG001b2b3b4b5b6aAc7aAbBc8b9c10b1aAc2b3b4b5b6b7b8b9c20aAc1b2b3b4b5b6aAc7b8b9
c30b1b2b3b4b5b6aAc7aAc8b9c40b1b2b3aAc4b5aAc6b7b8b9c50b1b2b3b4eH001b2b3b4b5b6aAc7b8eI001b2b3b4b5aA
c6b7b8b9aAd10aAc1aAc2b3b4b5eK001b2b3b4b5b6b7b8eL001b2aAc3b4b5b6aAc7b8eM001aAbBc2b3aAc4b5b6b7b8b9
c10aAc1b2aAbBbCbDbEbFbGbHc3b4b5aAc6aAc7aAc8b9c20b1b2aAc3b4aAc5b6b7b8aAc9c30b1aAc2b3aAbBc4b5b6b7b8
b9c40aAc1b2b3b4eN001b2b3b4b5b6b7b8b9c10b1b2b3b4b5b6b7b8aAbBc9c20b1b2b3b4b5aAc6b7b8b9c30b1b2b3aAc4
aAc5aAc6b7aAc8b9c40b1b2dL001b2b3b4b5aAc6b7b8b9c10b1b2b3b4b5b6b7aAc8b9c20eU001b2b3b4b5b6b7b8b9c10aA
c1aAc2b3b4b5b6b7b8aAc9c20b1b2aAgO001aAc2b3b4b5aAc6aAbBbCbDbEbFc7b8b9c10aAbBbCc1b2b3b4b5b6b7b8b9aA
d20aAc1b2b3b4aAc5aAc6b7b8b9aAd30aAc1b2b3aAc4b5b6aAbBbCbDc7b8b9c40b1b2b3b4b5b6b7b8b9c50aAbBc1eP001
aAc2b3aAc4b5b6b7b8b9c10b1eQ001b2b3b4b5b6b7eR001b2aAc3aAbBc4b5b6b7b8b9c10aAc1b2b3b4b5b6aAc7b8b9c20
b1b2b3b4b5b6b7b8b9eS001b2aAc3b4b5b6aAc7b8b9c10b1b2b3b4aAbBc5b6b7aAc8b9c20b1b2b3b4b5b6aAbBc7b8b9c30
b1b2b3b4b5aAc6b7b8b9c40b1b2b3b4b5b6eT001b2b3aAc4b5b6b7aAc8aAc9aAd10b1aAc2b3b4b5b6aAc7b8b9c20b1b2b3
b4b5b6b7b8b9c30b1b2aAc3aAc4b5b6eU001b2b3b4b5b6aAbBc7b8b9c10b1b2b3b4b5b6b7b8b9c20b1b2b3aAc4b5b6b7b8
b9aAd30b1b2aAc3b4b5b6b7b8b9c40b1b2eV001aAbBbCbDbEbFbGbHbIc2aAc3b4b5b6b7aAbBc8b9c10b1aAbBbCc2aAbBc3
b4b5b6b7b8b9c20aAbBbCbDbEbFbGbHbIbJbKbLc1b2b3aAc4b5b6b7b8aAc9aAd30aAc1aAc2b3aAc4b5b6b7aAc8b9c40aA
fW001b2b3aAc4b5b6b7b8b9aAd10aAc1b2b3b4aAc5b6b7aAc8aAc9c20b1b2b3b4aAc5eX001b2b3b4aAbBc5b6aAc7b8aA
fY001aAc2b3b4b5b6b7b8eZ001b2aAbBbCbDc3aAbBc4aAc5aAc6b7b8b9c10b1b2b3b4b5aAbBbCbDbEbFbGbHbIc6aAbBbC
bDbEbFbGbHfAA001b2b3b4b5b6b7aAbBc8b9c10b1b2b3b4b5b6b7b8b9c20b1b2b3b4b5b6b7b8b9c30b1b2
fVERTICAL JOINER@78896pHORIZONTAL JOINERrINSERT AT TOP STARTjBOTTOM STARTmTOP ENDhBOTTOM END
uOVERLAY MIDDLEoBEGIN SEGMENTnEND SEGMENTzgANATOLIAN HIEROGLYPH A001@82944b2b3b4b5b6b7b8b9c10aAc1
b2b3b4b5b6b7b8b9c20b1b2b3b4b5b6aAc7b8b9c30b1b2b3b4b5b6b7b8b9aAd40b1aAc2b3b4b5aAc6aAbBc7b8b9c50b1b2
b3b4b5b6b7b8b9c60b1b2b3b4b5b6aAbBbCc7b8b9c70b1b2b3b4b5b6b7b8b9c80b1b2b3b4b5b6b7b8b9c90b1b2b3b4b5b6
b7aAc8aAc9d100aAc1aAc2aAc3b4aAbBbCc5aAbBc6b7aAbBbCc8b9c10aAbBc1b2b3b4b5aAc6b7b8b9c20b1b2b3b4b5aAc6
b7b8b9c30b1b2b3b4b5aAc6b7b8b9c40b1b2b3b4b5b6b7b8b9c50b1b2b3b4b5b6b7b8b9c60b1b2b3b4b5b6b7b8b9c70b1
b2b3b4b5b6b7b8b9c80b1b2b3b4b5b6b7b8b9c90b1b2b3b4b5b6b7b8b9d200b1b2aAbBc3b4b5b6b7aAc8b9aAd10b1b2b3
b4b5aAc6aAc7b8b9c20b1b2b3b4b5b6b7aAc8b9c30b1b2b3b4b5b6b7b8b9c40b1b2b3b4b5b6b7b8b9c50b1b2b3b4b5b6b7
b8b9c60b1b2b3b4b5b6b7aAc8b9c70b1b2b3b4b5b6b7b8b9c80b1b2b3b4b5b6b7b8b9aAd90b1b2b3b4aAc5b6b7b8b9aA
e300b1b2b3b4b5b6b7b8b9aAd10b1b2b3b4b5b6b7b8b9c20b1b2b3b4b5b6b7b8b9aAd30b1b2AbBbCc3b4b5b6aAbBbCc7b8
b9c40b1b2b3b4b5b6b7b8b9c50b1b2b3b4b5b6b7b8b9aAd60b1b2b3b4aAc5b6b7b8aAc9c70b1aAc2b3b4b5b6b7b8b9c80
b1aAc2b3 RA OR RIjAc4b5b6aAc7b8b9c90b1b2b3 EIGHTh4b5b6b7b8b9d400b1b2b3b4b5b6b7b8b9
c10 BEGIN LOGOGRAM MARKuA END LOGOGRAM MARKu1b2b3b4b5b6b7b8b9c20b1b2b3b4b5b6b7b8b9c30b1b2b3b4b5b6
b7b8b9c40b1b2b3b4b5b6b7b8b9c50aAc1b2b3b4b5b6b7aAc8b9c60b1b2b3b4b5b6b7b8b9c70b1b2b3b4b5b6b7b8b9c80
b1b2b3b4b5b6b7b8b9c90b1b2b3b4b5b6b7d501b2b3b4b5b6b7b8b9c10b1b2b3b4b5b6b7b8b9c20b1b2b3b4b5b6b7b8b9
c30zaBAMUM LETTER PHASE-A NGKUE MFON@92160kGBIEE FONjPON MFON PIPAEMGBIEEfBArNAA MFONiSHUENSHUET
kTITA MFONjNZA MFONiSHINDA PA NJInPON PA NJI PIPAEMGBIEEfBAtMAEMBGBIEEkTU MAEMBAjNGANGUgMAEMVEUX
gNSUAEgVEUAENGAMkSEUNYAMhNTOQPENhKEUKEUTNDAkNKINDIgSUUdNGKUENZEUMkLAPAQeET KUThNTAP MFAAjMAEKEUP
hPASHAEgGHEUAERAEjPAMSHAEhMON NGGEUAETmNZUN MEUTjU YUQ NAEjGHEUAEGHEUAEmNTAP NTAAjSISAeMGBASA
fEUNJOMNDEUQlOOMPUQhKAFAePA LEERAEWAlNDA LEERAEWAmPETdMAEMKPENiNIKAePUPdTUAEPfLUAEPfSONJAM
gTEUTEUWENjMAENYIgKETdNDAANGGEUAETmKUOQeMOOMEUThSHUMeLOMMAEgFIRIeROMdKPOQeSOQdMAP PIEETjSHIRAE
gNTAPeSHOQ NSHUT YUMoNYIT MONGKEUAEQpPAARAEgNKAARAEhUNKNOWNhNGGENfMAESIfNJAMeMBANYIgNYETeTEUAEN
gSOTdPAAMeNSHIEEgMAEMeNYIdKAQdNSHAeVEEdLUcNENcAQdMBAQgB NSHUETgTU MAEMGBIEEmSIEEdET TUgLOM NTEUM
jMBA MAELEEkKIEEMfYEURAEgMBAARAEhKAMdPEESHIgYAFU LEERAEWAnLAM NSHUT NYAMoNTIEE SHEUOQlDU NJAA
iGHEUGHEUAEMlPITdTU NSIEEiSHET NJAQgUAEQTUjMFON TEUAEQkBIT MBAAKETmNYI NTEUMjKEUPUQgGHEUGHEN
iKEUYEUXhLAANAEgPARUMfVEUMeNGKINDI MVOPkGEU MBUjWUAETfSAKEUAEhTAAMeMEUQeNGGUOQa LARGEmMFIYAQgSUE
dMBEURIfONTIEENiNYAEMAEhPUNGAAMhMEUT NGGEETlFEUXeMBUOQfFEEdKEUAEMgMA NJEUAENAgUQAiLETdNGGAAMfSEN
eMAcKIQdNGOMgC NGKUE MAEMBAlZAdYUMdWANGKUOQiNGGENeDEUAEREEiGKAQfGHARAEgMBEEKEETiGBAYI
fNYIR MKPARAQ MEUNqTU MBITiMBEUMfPIRIEENhNDOMBUgMBAA CABBAGE-TREErKEUSHEUAEPkGHAPeKEUKAQgYU MUOMAE
jNZEUMfMBUEeNSEUAENhMBITeYEUQeKPARAQfAAdSEUXeNDIDAfTAASHAEhNJUEQfTITA YUEiSUAETfNGGUAEN NYAMmVEUX
eNANSANAQiMA KEUAERIkNTAAdGGUONgLAPdMBIRIEENhGBASAQhNTEUNGBAiTEUTEUXhNGGUMfFUEdNDEUTeSAbHAQfBUNG
eVEUAEPENiMBERAEgRUcNJAEMfLAMdTITUAEPhNSUOT NGOMjJEEEEgKETdNGGUeMAESIeBUAEMgLUcKUTdNJAMdGOMeWUP
dNGGUEETgSOMdTENeKUOP NKAARAEmNSUNdDAMeMA NSIEEiYAAdNDAPeSHUEQeETFONgMBIcAEMBAfBANYIgKEUSEUXhMBEUX
fKEUMeMBAA PICKETlYUWOQfNJEUXfMIEEdUAEeSHIQeKEN LAWdFATIGUElNGAQdAQdLIQdPINcENdTETfD MBUOeWAPdNJI
dMFONeNJIEEfLIEEeNJEUTeSHEEeGGAAMAEhYAMeWUAENfNGKUNfSHEEeNGKAPfKEUAETMEUNkTEUTeSHEUAEgNJAPeSUEdKET
dYAEMMAEhKUOMeSAPdMFEUTfNDEUXfMALEERIgEUTeSEUAEQgYENdNJEUAEMhKEUOT MBUAElNGKEURIhTUcGHAAeNGKYEE
gFEUFEUAETjNDEEeMGBOFUMhLEUAEPgNDONeMONIdGBEUNgPUUTeMGBIEEfFOdLUMdNSIEEPgMBAAeKWAETfNYETeTEUAEN
gSOTdYUWOQfKEUMeRAEMeTEEEEfNGKEUAEQiMFEUAEgNSIEETgKEUPePIPcEUTAEgNYUEeLETdNGGAAMgMFIEEfNGGWAEN
hYUOMePAPdYUOPeNDAMdTEUMfSUAEeKUNdNGGEUXeKIEEgTUOTeMEUNeKUQdNSUMeTEUNeMAENJEThNGGAPfLEUMeNGGUOM
fSHUTeJUEQfGHEUAEgKUcREN OLDhTAEcOQdNYIdRIIdLEEEEfMEEEEe@92497bSUUdMUcSHIIcEUXfKYEEeNUcSHUdNTEE
ePEEdNIcSHOQePUQdMVOPeLOQdREN MUCHiTIcNTUUeMBAA SEVENkSAQdFAAfE NDAPeTOONeMBEUMfLAPdVOMdLOONePAA
dSOMdRAQdNSHUOPfDUNePUAEeTAMdNGKAeKPEUXfWUOdSEEdNGGEUAETiPAAMeTOOdKUOPeLOMdNSHIEEfGOPeMAEMeNGKEUX
eOQdSHUEfRIMGBAgNJEUXfPEEMeSAAdNGGURAEhMGBAeGHEUXfNGKEUAEMhJAEMLIhMAPdLOOTeNGGEEEEgDIQeTAEN NTEUM
kSETdPUMdNDAA SOFTNESSmGGUAESHAE NYAMpYIEEeGHEUNfTUAEeYEUAEfPOcTUMAEfKEUAEfSUAENfTEUAEQgVEUAEfWEUX
eLAAMePUcTAAQeGHAAMAEhNGEUREUTiSHEUAEQhMGBENeBEEeNZAQdKOMeGBETeTUMdKUETeYAPdNYI CLEAVERlYITdMFEUQ
fNDIAQfPIEEQfYUEQeLEUAEMgFUEdGBEUXfNGKUPfKETdMAEdNGKAAMIhGHETeFAcNTUMePEUTeYEUMeNGGEUAEgYI BETWEEN
kZUQePOONeMIEEeFUETeNAEdMUAEeGHEUAEgFU IeMVIdPUAQeNGKUMfKUTdPIETeNTAPeYEUAETgNGGUPfPA PEOPLE
jFU CALLgOMdNJEEeAbTOQdObIbLAQdPA PLURALjTAAbQdNDAA MY HOUSEnSHIQeYEUXeNGUAEfYUAENeOQ SWIMMING
iCOVERiUQbNdKEUXePEUXeNJEE EPOCHkPUEdWUEdFEEdVEEdLUcMIcREUXdAEdNGUAETeAdSHOaQeFU REMEDYjNAcPIcLOQ
dKOcMENcAaQdTEUdKIcMONdTENdFAQdGHOMgF KAcUbKUcEEcREEdTAEdNYIdLAcRIIbEEeMEEEEfTAAdNDAAdJAEMfMbSUU
cHIIdIbEUXeKYEEdETdNUAEc@92697bJUAEfYOQdSHUdYAcNSHAePEUXeNTEEeWUEdPEEdRUcNIcREUXeKENdNGKWAENfGA
eSHOdPUAEeFOMdWAcLIbOQdKOcMBENeRENdMAbObBAAeTETdKPAdSAMBAfVUEQzaMRO LETTER TA@92736cNGIdYOcMIMdBA
cDAcAbPHIdKHAIeHAOdDAIdCHUdKEAAEfOLcMAEMeNINdPAcOOb@92754bROcSHIdTHEAeEAcWAcEbKOcLANb@92763cHAIdRI
cTEKkDIGIT ZERO@92768eONEdTWOcHREEfFOURdIVEeSIXcEVENfEIGHTfNINEjANDA@92782eOUBLE DANDA
qTANGSA LETTER OZbCbQbXcAZbCbQbXcVZbCbQbXcEZbCbQbXcIZbCbQbXcUZbCbQbXcAWZbCbQbXdUIZbCbQbXdFINAL NG
iLONG UEXiSHORT UEZdAWXjUECbZbQbXcIUZbCbQbXeMZbCbQbXcKAbHAdGAcNGAdSAcYAcWAcPAcNYAdPHAdBAcMAcNAcHA
cLAcHTAdTAcDAcRAcNHAdSHAdCAcTSAdGHAdHTTAeTHAdXAcFAcDHAdCHAdZAjDIGIT ZERO@92864eONEdTWOcHREEfFOUR
dIVEeSIXcEVENfEIGHTfNINErBASSA VAH LETTER ENNI@92880eKAcSEcFAcMBEdYIEdGAHdDHIIeKPAHeJOcHWAHeWAcZO
cGBUdDOcCEcUWUdTOcBAcVUcYEINePAcWADDAfAbOaOcUbEEb@92908bIiCOMBINING HIGH TONE@92912jLOW TONE
iMID TONEiLOW-MID TONEmHIGH-LOW TONExFULL STOPtPAHAWH HMONG VOWEL KEEB@92928bVdIBbVcAUBbVdUBbVcEB
bVcAIBbVdOOBbVdAWBbVdUABbVdOBbVcIABbVdABbVcWBbVcAABbVkCONSONANT VAUdNTSAUfLAUdHAUdNLAUeRAUdNKAU
eQHAUeYAUdHLAUeMAUdCHAUeNCHAUfHNAUePLHAUfNTHAUeAUdAUcXAUdCAUnMARK CIM TUBdSOcKEScHAVeSUAMeHOMdTAUM
nSIGN VOS THOMdSHAB CEEBoCIM CHEEMjVOS THIABfFEEMiXYEEM NTXIVfRHOdTOVdFAIBkVOS SEEViMEEJ SUAB
jVOS NRUAiIB YAMgXAUSeCIM TSOV ROGrDIGIT ZERO@93008eONEdTWOcHREEfFOURdIVEeSIXcEVENfEIGHTfNINE
kNUMBER TENS@93019eHUNDREDSiTEN THOUSANDSnMILLIONSiHUNDRED MILLIONSqTEN BILLIONSlRILLIONS
qSIGN VOS LUB@93027hXYOOeHLIdTHIRD-STAGE HLIpZWJ THAJiHNUBeNQIGeXIABeNTUJeAVcTXHEEJ CEEV
lMEEJ TSEEBkTAUdLOSdMUSdCIM HAIS LUS NTOG NTOGsCUAM TSHOOJlTXWVa CHWVjPUB DAWBiNRES TOS
rCLAN SIGN TSHEEJ@93053gYEEGeLIScAUJeXYOOJfKOOdHAWJeMUASeTHOJdSABePHABeKHABeHAMdVAJdFAJdYAJdTSWB
eKWMdVWJzbMEDEFAIDRIN CAPITAL LETTER M@93760bSbVbWbATIUeZbKPcPbTbGbFbIbKbAbJbEbBbCbUbYUcLbQbHPcNY
cXbDbOEcNbRbObAIcYqSMALL LETTER MbSbVbWbATIUeZbKPcPbTbGbFbIbKbAbJbEbBbCbUbYUcLbQbHPcNYcXbDbOEcNbR
bObAIcYoDIGIT ZEROeONEdTWOcHREEfFOURdIVEeSIXcEVENfEIGHTfNINEkNUMBER TENdELEVENgTWELVEfHIRTEEN
iFOURTEENhIFTEENhSIXTEENgEVENTEENjEIGHTEENiNINETEENpDIGIT ONE ALTERNATE FORMsTWO ALTERNATE FORM
rHREE ALTERNATE FORMzbCOMMAfFULL STOPjSYMBOL AIVAlEXCLAMATION OHzaIAO LETTER PA@93952cBAcYI PAfPLA
dMAbHAdARCHAIC MAkFAcVAbFAdTAcDAcYI TTAcAfTTAdDDAdNAbHAdYI NNAgARCHAIC NAkNNAbHAeLAbYAcHAbYAeTLHA
eDLHAeTLHYAfDLHYAfKAcGAcYI KAfQAbGAdNGAbHAeARCHAIC NGAlHAcXAcGHAbHAeTSSAeDZZAeNYAbHAeTSHAeDZHA
eYI TSHAeDZHAhREFORMED TSHAnSHAcSAdZHAcSHAeTSAdDZAdYI TSAgSAcZAbSAcZAbSAeARCHAIC ZZAlZZYAcSYAfWA
cAHcHHAdBRIdSYIdDZYIeTEbSEdRTEkSIGN CONSONANT MODIFIER BAR@94031zcLETTER NASALIZATION
tSIGN ASPIRATIONkREFORMED VOICINGhASPIRATIONyVOWEL SIGN AaAbHHcNaGdOaOcWOb@94044bEaNaGdOEYdIaAaNaG
dObEbIbUbNGdUaAaNaGdUbEIcNGdYaIcAEaEdERRdROUNDED ERRlERcROUNDED ERkAIcEIcAUcOUcNaGcUOGdYUIdOGbER
dVWcIGcEAcIONGeUInTONE RIGHT@94095fTOP RIGHTjABOVEfBELOWkLETTER TONE-2b3b4b5b6b7b8gREFORMED TONE-1
b2b4b5b6b8zcTANGUT ITERATION MARK@94176vNUSHU ITERATION MARKuOLD CHINESE HOOK MARKjITERATION MARK
zbKHITAN SMALL SCRIPT FILLERzbVIETNAMESE ALTERNATE READING MARK CA@94192cNHAY
znTANGUT COMPONENT-001@100352b2b3b4b5b6b7b8b9c10b1b2b3b4b5b6b7b8b9c20b1b2b3b4b5b6b7b8b9c30b1b2b3b4
b5b6b7b8b9c40b1b2b3b4b5b6b7b8b9c50b1b2b3b4b5b6b7b8b9c60b1b2b3b4b5b6b7b8b9c70b1b2b3b4b5b6b7b8b9c80
b1b2b3b4b5b6b7b8b9c90b1b2b3b4b5b6b7b8b9d100b1b2b3b4b5b6b7b8b9c10b1b2b3b4b5b6b7b8b9c20b1b2b3b4b5b6
b7b8b9c30b1b2b3b4b5b6b7b8b9c40b1b2b3b4b5b6b7b8b9c50b1b2b3b4b5b6b7b8b9c60b1b2b3b4b5b6b7b8b9c70b1b2
b3b4b5b6b7b8b9c80b1b2b3b4b5b6b7b8b9c90b1b2b3b4b5b6b7b8b9d200b1b2b3b4b5b6b7b8b9c10b1b2b3b4b5b6b7b8
b9c20b1b2b3b4b5b6b7b8b9c30b1b2b3b4b5b6b7b8b9c40b1b2b3b4b5b6b7b8b9c50b1b2b3b4b5b6b7b8b9c60b1b2b3b4
b5b6b7b8b9c70b1b2b3b4b5b6b7b8b9c80b1b2b3b4b5b6b7b8b9c90b1b2b3b4b5b6b7b8b9d300b1b2b3b4b5b6b7b8b9c10
b1b2b3b4b5b6b7b8b9c20b1b2b3b4b5b6b7b8b9c30b1b2b3b4b5b6b7b8b9c40b1b2b3b4b5b6b7b8b9c50b1b2b3b4b5b6b7
b8b9c60b1b2b3b4b5b6b7b8b9c70b1b2b3b4b5b6b7b8b9c80b1b2b3b4b5b6b7b8b9c90b1b2b3b4b5b6b7b8b9d400b1b2b3
b4b5b6b7b8b9c10b1b2b3b4b5b6b7b8b9c20b1b2b3b4b5b6b7b8b9c30b1b2b3b4b5b6b7b8b9c40b1b2b3b4b5b6b7b8b9
c50b1b2b3b4b5b6b7b8b9c60b1b2b3b4b5b6b7b8b9c70b1b2b3b4b5b6b7b8b9c80b1b2b3b4b5b6b7b8b9c90b1b2b3b4b5
b6b7b8b9d500b1b2b3b4b5b6b7b8b9c10b1b2b3b4b5b6b7b8b9c20b1b2b3b4b5b6b7b8b9c30b1b2b3b4b5b6b7b8b9c40b1
b2b3b4b5b6b7b8b9c50b1b2b3b4b5b6b7b8b9c60b1b2b3b4b5b6b7b8b9c70b1b2b3b4b5b6b7b8b9c80b1b2b3b4b5b6b7b8
b9c90b1b2b3b4b5b6b7b8b9d600b1b2b3b4b5b6b7b8b9c10b1b2b3b4b5b6b7b8b9c20b1b2b3b4b5b6b7b8b9c30b1b2b3b4
b5b6b7b8b9c40b1b2b3b4b5b6b7b8b9c50b1b2b3b4b5b6b7b8b9c60b1b2b3b4b5b6b7b8b9c70b1b2b3b4b5b6b7b8b9c80
b1b2b3b4b5b6b7b8b9c90b1b2b3b4b5b6b7b8b9d700b1b2b3b4b5b6b7b8b9c10b1b2b3b4b5b6b7b8b9c20b1b2b3b4b5b6
b7b8b9c30b1b2b3b4b5b6b7b8b9c40b1b2b3b4b5b6b7b8b9c50b1b2b3b4b5b6b7b8b9c60b1b2b3b4b5b6b7b8
uKHITAN SMALL SCRIPT CHARACTER-18B00b1b2b3b4b5b6b7b8b9bAbBbCbDbEbFc10b1b2b3b4b5b6b7b8b9bAbBbCbDbE
bFc20b1b2b3b4b5b6b7b8b9bAbBbCbDbEbFc30b1b2b3b4b5b6b7b8b9bAbBbCbDbEbFc40b1b2b3b4b5b6b7b8b9bAbBbCbD
bEbFc50b1b2b3b4b5b6b7b8b9bAbBbCbDbEbFc60b1b2b3b4b5b6b7b8b9bAbBbCbDbEbFc70b1b2b3b4b5b6b7b8b9bAbBbC
bDbEbFc80b1b2b3b4b5b6b7b8b9bAbBbCbDbEbFc90b1b2b3b4b5b6b7b8b9bAbBbCbDbEbFcA0b1b2b3b4b5b6b7b8b9bAbB
bCbDbEbFcB0b1b2b3b4b5b6b7b8b9bAbBbCbDbEbFcC0b1b2b3b4b5b6b7b8b9bAbBbCbDbEbFcD0b1b2b3b4b5b6b7b8b9bA
bBbCbDbEbFcE0b1b2b3b4b5b6b7b8b9bAbBbCbDbEbFcF0b1b2b3b4b5b6b7b8b9bAbBbCbDbEbFdC00b1b2b3b4b5b6b7b8b9
bAbBbCbDbEbFc10b1b2b3b4b5b6b7b8b9bAbBbCbDbEbFc20b1b2b3b4b5b6b7b8b9bAbBbCbDbEbFc30b1b2b3b4b5b6b7b8
b9bAbBbCbDbEbFc40b1b2b3b4b5b6b7b8b9bAbBbCbDbEbFc50b1b2b3b4b5b6b7b8b9bAbBbCbDbEbFc60b1b2b3b4b5b6b7
b8b9bAbBbCbDbEbFc70b1b2b3b4b5b6b7b8b9bAbBbCbDbEbFc80b1b2b3b4b5b6b7b8b9bAbBbCbDbEbFc90b1b2b3b4b5b6
b7b8b9bAbBbCbDbEbFcA0b1b2b3b4b5b6b7b8b9bAbBbCbDbEbFcB0b1b2b3b4b5b6b7b8b9bAbBbCbDbEbFcC0b1b2b3b4b5
b6b7b8b9bAbBbCbDbEbFcD0b1b2b3b4b5zjATAKANA LETTER MINNAN TONE-2@110576b3b4b5b7@110581b8
gNASALIZED TONE-1b2b3b4b5b7@110589b8xARCHAIC E@110592zaHIRAGANA LETTER ARCHAIC YE
zaENTAIGANA LETTER A-1b2b3bWOeI-1b2b3b4dU-1b2b3b4b5dE-2b3b4b5b6dO-1b2b3dKA-1b2b3b4b5b6b7b8b9b10b1
cKEeI-1b2b3b4b5b6b7b8dU-1b2b3b4b5b6b7dE-1b2b3b4b5b6dO-1b2b3bKIfSA-1b2b3b4b5b6b7b8dI-1b2b3b4b5b6
dU-1b2b3b4b5b6b7b8dE-1b2b3b4b5dO-1b2b3b4b5b6b7eTA-1b2b3b4dI-1b2b3b4b5b6b7dU-1b2b3b4bTOeE-1b2b3b4b5
b6b7b8b9dO-1b2b3b4b5b6bRAfNA-1b2b3b4b5b6b7b8b9dI-1b2b3b4b5b6b7bTEeU-1b2b3dE-1b2b3b4b5b6bKOeO-1b2b3
b4b5eHA-1b2b3b4b5b6b7b8b9b10b1eI-1b2b3b4b5b6b7dU-1b2b3dE-1b2b3b4b5b6b7dO-1b2b3b4b5b6b7b8eMA-1b2b3
b4b5b6b7dI-1b2b3b4b5b6b7dU-1b2b3b4dE-1b2bMAeO-1b2b3b4b5b6eYA-1b2b3b4b5bYOeU-1b2b3b4dO-1b2b3b4b5b6
eRA-1b2b3b4dI-1b2b3b4b5b6b7dU-1b2b3b4b5b6dE-1b2b3b4dO-1b2b3b4b5b6eWA-1b2b3b4b5dI-1b2b3b4b5dE-1b2b3
b4dO-1b2b3b4b5b6b7eN-MU-MO-1b2zbIRAGANA LETTER ARCHAIC WUzbKATAKANA LETTER ARCHAIC YIbEcWU
zbHIRAGANA LETTER SMALL WI@110928bEbOyKATAKANA LETTER SMALL WI@110948bEbOcN
xNUSHU CHARACTER-1B170@110960b1b2b3b4b5b6b7b8b9bAbBbCbDbEbFc80b1b2b3b4b5b6b7b8b9bAbBbCbDbEbFc90b1
b2b3b4b5b6b7b8b9bAbBbCbDbEbFcA0b1b2b3b4b5b6b7b8b9bAbBbCbDbEbFcB0b1b2b3b4b5b6b7b8b9bAbBbCbDbEbFcC0
b1b2b3b4b5b6b7b8b9bAbBbCbDbEbFcD0b1b2b3b4b5b6b7b8b9bAbBbCbDbEbFcE0b1b2b3b4b5b6b7b8b9bAbBbCbDbEbF
cF0b1b2b3b4b5b6b7b8b9bAbBbCbDbEbFd200b1b2b3b4b5b6b7b8b9bAbBbCbDbEbFc10b1b2b3b4b5b6b7b8b9bAbBbCbDbE
bFc20b1b2b3b4b5b6b7b8b9bAbBbCbDbEbFc30b1b2b3b4b5b6b7b8b9bAbBbCbDbEbFc40b1b2b3b4b5b6b7b8b9bAbBbCbD
bEbFc50b1b2b3b4b5b6b7b8b9bAbBbCbDbEbFc60b1b2b3b4b5b6b7b8b9bAbBbCbDbEbFc70b1b2b3b4b5b6b7b8b9bAbBbC
bDbEbFc80b1b2b3b4b5b6b7b8b9bAbBbCbDbEbFc90b1b2b3b4b5b6b7b8b9bAbBbCbDbEbFcA0b1b2b3b4b5b6b7b8b9bAbB
bCbDbEbFcB0b1b2b3b4b5b6b7b8b9bAbBbCbDbEbFcC0b1b2b3b4b5b6b7b8b9bAbBbCbDbEbFcD0b1b2b3b4b5b6b7b8b9bA
bBbCbDbEbFcE0b1b2b3b4b5b6b7b8b9bAbBbCbDbEbFcF0b1b2b3b4b5b6b7b8b9bAbBvDUPLOYAN LETTER H@113664bXbP
bTbFbKbLbBbDbVbGbRbP NdD SdF NdK MdR SdTHcSLOAN DHiDHcKKcSLOAN JhHLcLHcRHcMbNbJbSbM NdN MdJ MdS J
dM WITH DOTkN WITH DOTkJ WITH DOTaS INSIDE AND ABOVEzdS WITH DOTa BELOWqM SdN SdJ SdS SdM N S
fN M SfJ M SfS J SfJ S WITH DOTkNa SfS Ta RdPa RfT SbR SfWaHb RdS NbMdK R SfG R SfS Ka RfA
bSLOAN OWiOAb@113732bAOUdIbEbIEcSHORT IhUIcEEcSLOAN EHiROMANIAN IkSLOAN EEiLONG IgYEcUbEUcXWcU N
dLONG UgROMANIAN UkUHcSLOAN UhOOHcWbUcWAbObIbEIcOWdNASAL UbObIbAhPERNIN ANbMjSLOAN ENcANcON
iVOCALIC MqAFFIX LEFT HORIZONTAL SECANT@113776wMID HORIZONTAL SECANTvRIGHT HORIZONTAL SECANT
xLOW VERTICAL SECANTtMID VERTICAL SECANTtHIGH VERTICAL SECANTuATTACHED SECANTgLEFT-TO-RIGHT SECANT
uTANGENTfILeE HOOKgI HOOKgTANGENT HOOKvHIGH ACUTE@113792fTIGHT ACUTElGRAVEfLONG GRAVEkDOTdCIRCLE
gLINEeWAVEeVERTICALnLOW ACUTE@113808fTIGHT ACUTElGRAVEfLONG GRAVEkDOTdCIRCLEgLINEeWAVEeVERTICAL
iARROWpSIGN O WITH CROSS@113820rTHICK LETTER SELECTORvDOUBLE MARKlPUNCTUATION CHINOOK FULL STOP
znSHORTHAND FORMAT LETTER OVERLAPoCONTINUING OVERLAPsDOWN STEPjUP STEP
yZNAMENNY COMBINING MARK GORAZDO NIZKO S KRYZHEM ON LEFT@118528zgNIZKO S KRYZHEM ON LEFT
xTSATA ON LEFTnGORAZDO NIZKO ON LEFTvNIZKO ON LEFTnSREDNE ON LEFToMALO POVYSHE ON LEFT
uPOVYSHE ON LEFTpVYSOKO ON LEFToMALO POVYSHE S KHOKHLOM ON LEFTzgPOVYSHE S KHOKHLOM ON LEFT
zbVYSOKO S KHOKHLOM ON LEFTzaGORAZDO NIZKO S KRYZHEM ON RIGHTzhNIZKO S KRYZHEM ON RIGHT
yTSATA ON RIGHToGORAZDO NIZKO ON RIGHTwNIZKO ON RIGHToSREDNE ON RIGHTpMALO POVYSHE ON RIGHT
vPOVYSHE ON RIGHTqVYSOKO ON RIGHTpMALO POVYSHE S KHOKHLOM ON RIGHTzhPOVYSHE S KHOKHLOM ON RIGHT
zcVYSOKO S KHOKHLOM ON RIGHTzbTSATA S KRYZHEMpMALO POVYSHE S KRYZHEMwSTRANNO MALO POVYSHE
uPOVYSHE S KRYZHEMiTRANNOpVYSOKO S KRYZHEMqMALO POVYSHE STRANNOuGORAZDO VYSOKOoZELOeONcRAVNO
fTIKHAYAhBORZAYAhUDARKAgPODVERTKAjLOMKAfKUPNAYAgACHKAgZEVOKfSKOBAfRAZSEKAhKRYZH ON LEFT
sTONAL RANGE MARK MRACHNO@118576hSVETLOgTRESVETLOzbMARK ZADERZHKAjDEMESTVENNY ZADERZHKAvOTSECHKA
iPODCHASHIEa WITH VERTICAL STROKEzgCHASHKAa POLNAYApOBLACHKOiSOROCHYA NOZHKApTOCHKAgDVOETOCHIE
pATTACHING VERTICAL OMETxMARK CURVED OMETlKRYZHkLOWER TONAL RANGE INDICATOR
zmPRIZNAK MODIFIER LEVEL-2b3hDIRECTION FLIPoKRYZHfROGuNEUME KRYUK@118608a TIKHYlPARAKLIT
iDVA V CHELNUmKLYUCHgZANOZHEKiSTOPITSAa S OCHKOMrPEREVODKAa NEPOSTOYANNAYA
ySTOPITSA WITH SOROCHYA NOZHKAzeCHELYUSTKAkPALKAfZAPYATAYAjGOLUBCHIK BORZYfTIKHYfMRACHNYhSVETLY
gTRESVETLYtVRAKHIYA PROSTAYAiMRACHNAYAjSVETLAYAiTRESVETLAYAlKLYUCHEVAYA PROSTAYAiMRACHNAYA
jSVETLAYAiTRESVETLAYAzhDOUBLE ZAPYATAYAqREVERSED CHELYUSTKAtDERBITSAiKHAMILOhCHASHKAhPODCHASHIE
kSKAMEYTSA MRACHNAYAjSVETLAYAiTRESVETLAYAkIKHAYArDEMESTVENNY KLYUCHsSKAMEYTSA KLYUCHEVAYA SVETLAYA
nNEPOSTOYANNAYAoVAYA TIKHAYAtDVOECHELNAYA PROSTAYAiSVETLAYAiNEPOSTOYANNAYAoKLYUCHEVAYAziLOZHITIE
a S ZAPYATOYkZAKRYTOEiS KRYZHEMtKRYZHfROGdFITAeKOBYLAgZMEYTSAhSTATYAa S ZAPYATOYiKRYZHEM
hZAPYATOY I KRYZHEMsKRYZHEM I ZAPYATOYuZAKRYTAYAa S ZAPYATOYuS ROGOMfDVUMYA ZAPYATYMI
qZAPYATOY I PODCHASHIEMzgPOLKULIZMYkSTATYA NEPOSTOYANNAYAtRELA PROSTAYAiMRACHNOTIKHAYAoKRYZHEVAYA
kPOLUPOVODNAYAlVODNAYAjNEPOSTOYANNAYAoKLYUCHEPOVODNAYAjNEPOSTOYANNAYAvTIKHAYA PUTNAYApDVOECHELNAYA
dOKRYZHEVAYAkPOVODNAYAkAYA KLYUCHEVAYApOPOVODNAYA KLYUCHEVAYAzgGROMNAYA WITH SINGLE ZAPYATAYA
zbOPOVODNAYA WITH SINGLE ZAPYATAYAzhNAYAeOPOVODNAYAa WITH DOUBLE ZAPYATAYAzgKRYZHEVAYAa POVODNAYA
zhMECHIKa POVODNYhKLYUCHEVOYdPOVODNYhNEPOSTOYANNYzbSTRELA TRYASOGLASNAYAiPOVODNAYAjSTRELNAYAwOSOKA
a SVETLAYAiTRESVETLAYAlKRYUKOVAYA SVETLAYAsLYUCHEVAYA SVETLAYAiNEPOSTOYANNAYAzhSTRELA KRYUKOVAYA
a POVODNAYAjGROMNAYA WITH SINGLE ZAPYATAYAzbOPOVODNAYA WITH SINGLE ZAPYATAYAzhNAYAeOPOVODNAYA
a WITH DOUBLE ZAPYATAYAzgKRYZHEVAYAa POVODNAYAzaTRYASKAzaKUFISMAhOBLAKOgDUDAeNEMKAfPAUK
tBYZANTINE MUSICAL SYMBOL PSILI@118784fDASEIAgPERISPOMENIlOXEIA EKFONITIKONlDIPLI
lVAREIA EKFONITIKONlDIPLImKATHISTIiSYRMATIKIjPARAKLITIKIlYPOKRISISa DIPLIpKREMASTI
iAPESO EKFONITIKONrEXO EKFONITIKONpTELEIAgKENTIMATAjAPOSTROFOSa DIPLIqSYNEVMAhTHITA
fOLIGON ARCHAIONpGORGON ARCHAIONpPSILONgCHAMILONiVATHYfISON ARCHAIONnKENTIMA ARCHAIONjTA ARCHAION
sSAXIMATAiPARICHONiSTAVROS APODEXIAqOXEIAI ARCHAIONpVAREIAI ARCHAIONqAPODERMA ARCHAIONoTHEMA
iKLASMAgREVMAfPIASMA ARCHAIONpTINAGMAhANATRICHISMAmSEISMAfYNAGMA ARCHAIONiMETA STAVROU
uOYRANISMA ARCHAIONsTHEMAfLEMOIfDYOdTRIAdESSERAhKRATIMATAjAPESO EXO NEOnFTHORA ARCHAIONpIMIFTHORA
jTROMIKON ARCHAIONrKATAVA TROMIKONpPELASTONhSIFISTONjKONTEVMAiCHOREVMA ARCHAIONrRAPISMA
hPARAKALESMA ARCHAIONpLITIKI ARCHAIONuICHADINhNANAePETASMAhKONTEVMA ALLOnTROMIKON ALLO
nSTRAGGISMATAmGRONTHISMATAmISON NEOiOLIGON NEOjXEIA NEOjPETASTIhKOUFISMAiPETASTOKOUFISMA
pKRATIMOKOUFISMApPELASTON NEOmKENTIMATA NEO ANOk NEO ANOpYPSILIgAPOSTROFOS NEOfI SYNDESMOS NEO
yYPORROIhKRATIMOYPORROONpELAFRONhCHAMILIhMIKRON ISONlVAREIA NEOkPIASMA NEOjSIFISTON NEOnOMALON
gANTIKENOMAkLYGISMAhPARAKLITIKI NEOkALESMA NEOpETERON PARAKALESMAsKYLISMAhANTIKENOKYLISMA
pTROMIKON NEOmEKSTREPTONkSYNAGMA NEOjRMAfCHOREVMA NEOmEPEGERMAiSEISMA NEOkXIRON KLASMA
mTROMIKOPSIFISTONqPSIFISTOLYGISMApTROMIKOLYGISMAhPARAKALESMAsPSIFISTOPARAKALESMAtTROMIKOSYNAGMA
oPSIFISTOSYNAGMApGORGOSYNTHETONoARGOSYNTHETONnETERON ARGOSYNTHETONuOYRANISMA NEOnTHEMATISMOS ESO
cXOk APLOUNjS KAI APOTHESqKATAVASMAjENDOFONONjYFEN KATOeANOiSTAVROShKLASMA ANOkDIPLI ARCHAION
oKRATIMA ARCHAIONhLLOeNEOlAPODERMA NEOkLIeDIPLIfTRIPLIfETRAPLIiKORONIShLEIMMA ENOS CHRONOU
mDYO CHRONONlTRION CHRONONmESSARON CHRONONqIMISEOS CHRONOUwGORGON NEO ANOhPARESTIGMENON ARISTERA
iDEXIAzbDIGORGONa PARESTIGMENON ARISTERA KATOeANOmDEXIAzdTRIGORGONjARGONfIMIDIARGONkDIARGON
hAGOGI POLI ARGIjARGOTERIfIeMETRIAeSIeGORGIbOTERIjPOLI GORGIqMARTYRIA PROTOS ICHOS
mALLI PROTOS ICHOSrDEYTEROS ICHOSoALLI DEYTEROS ICHOStTRITOS ICHOSjFONIASiETARTOS ICHOS
fLEGETOS ICHOSwLEGETOS ICHOSnPLAGIOS ICHOSwISAKIA TELOUS ICHIMATOSxAPOSTROFOI TELOUS ICHIMATOS
zcFANEROSIS TETRAFONIASlMONOFONIASkDIFONIASsMARTYRIA VARYS ICHOSlPROTOVARYS ICHOS
pLAGIOS TETARTOS ICHOSzgGORTHMIKON N APLOUNgDIPLOUNuENARXIS KAI FTHORA VOUwIMIFONONeTHORON
kFTHORA ARCHAION DEYTEROU ICHOUxDIATONIKI PAcNANAoNAOS ICHOSkDIATONIKI DImSKLIRON DIATONON DI
tDIATONIKI KEcZOcNI KATOeANOqMALAKON CHROMA DIFONIASiMONOFONIASzgHTORA SKLIRON CHROMA VASIS
zbTHORA SKLIRON CHROMA SYNAFIvNENANOnCHROA ZYGOSfKLITONgSPATHImFTHORA I YFESIS TETARTIMORION
wENARMONIOS ANTIFONIAzcYFESIS TRITIMORIONsDIESIS TRITIMORIONkETARTIMORIONnAPLI DYO DODEKATA
rMONOGRAMMOS TESSERA DODEKATAzdDIGRAMMOS EX DODEKATAvTRIGRAMMOS OKTO DODEKATA
zgYFESIS APLI DYO DODEKATArMONOGRAMMOS TESSERA DODEKATAzdDIGRAMMOS EX DODEKATA
vTRIGRAMMOS OKTO DODEKATAzgGENIKI DIESISgYFESISnDIASTOLI APLI MIKRIeEGALIlDIPLIfTHESEOS
qSIMANSIS THESEOSa DISIMOUhTRISIMOUhETRASIMOUsARSEOSa DISIMOUhTRISIMOUhETRASIMOUzbDIGRAMMA GG
jFTOGGOS OUmSTIGMAgARKTIKO PAcVOUdGAcDIcKEcZOcNIkKENTIMATA NEO MESOl NEO MESOjTA NEO KATO
l NEO KATOpLASMA KATOlGORGON NEO KATOzpMUSICAL SYMBOL SINGLE BARLINE@119040oDOUBLE BARLINE
oFINAL BARLINEnREVERSE FINAL BARLINEvDASHED BARLINEoSHORT BARLINEnLEFT REPEAT SIGN
qRIGHT REPEAT SIGNqEPEAT DOTSlDAL SEGNOh CAPOhSEGNOfCODAeREPEATED FIGURE-1b2b3rFERMATAa BELOW
nBREATH MARKlCAESURAhBRACEbKEThONE-LINE STAFFoTWO-LINE STAFFnHREE-LINE STAFFqFOUR-LINE STAFF
oIVE-LINE STAFFpSIX-LINE STAFFkSTRING FRETBOARDuFOUR-STRING FRETBOARDvG CLEFa OTTAVA ALTAeBASSA
tC CLEFgF CLEFa OTTAVA ALTAeBASSAtDRUM CLEF-1b2lMULTIPLE MEASURE REST@119081vDOUBLE SHARPfFLAT
lFLAT UPcDOWNjNATURAL UPcDOWNmSHARP UPcDOWNkQUARTER TONE SHARPfFLATrCOMMON TIMEkUT TIME
iOTTAVA ALTAeBASSAmQUINDICESIMA ALTAeBASSAsMULTI RESTkWHOLE RESTkHALF RESTjQUARTER REST
mEIGHTH RESTlSIXTEENTH RESToTHIRTY-SECOND RESTsSIXTY-FOURTH RESTrONE HUNDRED TWENTY-EIGHTH REST
zfX NOTEHEADkPLUS NOTEHEADnCIRCLE X NOTEHEADrSQUARE NOTEHEAD WHITEfBLACK
vTRIANGLE NOTEHEAD UP WHITEfBLACKiLEFT WHITEfBLACKkRIGHT WHITEfBLACKlDOWN WHITEfBLACK
kUP RIGHT WHITEfBLACKzhMOON NOTEHEAD WHITEfBLACKtTRIANGLE-ROUND NOTEHEAD DOWN WHITEfBLACK
zjPARENTHESIS NOTEHEADuVOID NOTEHEADnNOTEHEAD BLACKnULL NOTEHEADnCLUSTER NOTEHEAD WHITEfBLACK
wBREVEfWHOLE NOTEkHALF NOTEjQUARTER NOTEmEIGHTH NOTElSIXTEENTH NOTEoTHIRTY-SECOND NOTE
sSIXTY-FOURTH NOTErONE HUNDRED TWENTY-EIGHTH NOTEzfCOMBINING STEMdPRECHGESANG STEMrTREMOLO-1b2b3
tFINGERED TREMOLO-1b2b3sCOMBINING AUGMENTATION DOTqFLAG-1b2b3b4b5qBEGIN BEAMkEND BEAMiBEGIN TIE
jEND TIEhBEGIN SLURkEND SLURiBEGIN PHRASEmEND PHRASEkCOMBINING ACCENTgSTACCATOiTENUTO
gSTACCATISSIMOnMARCATOa-STACCATOqACCENT-STACCATOpLOUREpARPEGGIATO UPcDOWNpCOMBINING DOITeRIPdFLIP
eSMEARfBENDeDOUBLE TONGUEnTRIPLE TONGUExRINFORZANDOlSUBITOgZbPIANOfMEZZOfFORTEfCRESCENDO
jDECRESCENDOlGRACE NOTE SLASHfNO SLASHtTRbURNeINVERTED TURNnTURN SLASHfUPhORNAMENT STROKE-1b2b3b4
b5b6b7b8b9b10b1sHAUPTSTIMMElNEBENSTIMMElEND OF STIMMEnDEGREE SLASHmCOMBINING DOWN BOWiUP BOW
gHARMONICiSNAP PIZZICATOyPEDAL MARKeUP MARKnHALF PEDAL MARKpGLISSANDO UPcDOWNoWITH FINGERNAILS
qDAMPa ALLiMAXIMAgLONGAfBREVISgSEMIBREVIS WHITEfBLACKqMINIMAa BLACKmSEMIMINIMA WHITEfBLACK
qFUSA WHITEfBLACKkLONGA PERFECTA RESTnIMPERFECTA RESTvBREVIS RESTlSEMIBREVIS RESTpMINIMA REST
lSEMIMINIMA RESTpTEMPUS PERFECTUM CUM PROLATIONE PERFECTAiIMPERFECTAkPERFECTA DIMINUTION-1
zvIMPERFECTUM CUM PROLATIONE PERFECTAiIMPERFECTAa DIMINUTION-1b2b3zzhCROIXfGREGORIAN C CLEFgF CLEF
qSQUARE BiVIRGAfPODATUShCLIVISgSCANDICUSjCLIMACUSiTORCULUSiPORRECTUSa FLEXUSqSCANDICUS FLEXUS
qTORCULUS RESUPINUSsPES SUBPUNCTISoKIEVAN C CLEFgEND OF PIECEmFINAL NOTEkRECITATIVE MARK
pWHOLE NOTEkHALF NOTEjQUARTER NOTE STEM DOWNeUPuEIGHTH NOTE STEM DOWNeUPtFLAT SIGNqSORIeKORON
uGREEK VOCAL NOTATION SYMBOL-1@119296b2b3b4b5b6b7b8b9b10b1b2b3b4b5b6b7b8b9c20b1b2b3b4c50b1b2b3b4
yINSTRUMENTAL NOTATION SYMBOL-1b2b4b5b7b8b11b2b3b4b7b8b9c23b4b5b6b7b9c30b2b6b7b8b9c40b2b3b5b7b8b9
c50b1b2b3b4zmCOMBINING GREEK MUSICAL TRISEMEgETRASEMEjPENTASEMEziGREEK MUSICAL LEIMMA
uMAYAN NUMERAL ZERO@119520eONEdTWOcHREEfFOURdIVEeSIXcEVENfEIGHTfNINEeTENdELEVENgTWELVEfHIRTEEN
iFOURTEENhIFTEENhSIXTEENgEVENTEENjEIGHTEENiNINETEENvONOGRAM FOR EARTH@119552
sDIGRAM FOR HEAVENLY EARTHnUMAN EARTHlEARTHLY HEAVENfUMANi@119557qTETRAGRAM FOR CENTREgFULL CIRCLE
lMIREDfBARRIERhKEEPING SMALLnCONTRARIETYlASCENTgOPPOSITIONkBRANCHING OUT
nDEFECTIVENESS OR DISTORTIONzbIVERGENCEkYOUTHFULNESSmINCREASEiPENETRATIONlREACHfCONTACT
hHOLDING BACKmWAITINGhFOLLOWINGjADVANCEhRELEASEfSISTANCEkEASEeJOYdCONTENTIONkENDEAVOURjDUTIES
gCHANGEgDECISIVENESSmBOLD RESOLUTIONpPACKINGhLEGIONgCLOSENESSjKINSHIPhGATHERINGjSTRENGTHiPURITY
gFULLNESSiRESIDENCEjLAW OR MODELmRESPONSEiGOING TO MEETnENCOUNTERSkSTOVEfGREATNESSjENLARGEMENT
lPATTERNhRITUALgFLIGHTgVASTNESS OR WASTINGtCONSTANCYjMEASUREhETERNITYiUNITYfDIMINISHMENT
mCLOSED MOUTHmGUARDEDNESSkATHERING INmMASSINGhACCUMULATIONmEMBELLISHMENTnDOUBTfWATCHfSINKINGhINNER
fDEPARTUREiARKENINGiIMMINGhEXHAUSTIONkSEVERANCEiTOPPAGEiHARDNESSiCOMPLETIONjLOSUREhFAILURE
hAGGRAVATIONlCOMPLIANCEkON THE VERGEmDIFFICULTIESmLABOURINGjFOSTERING
xCOUNTING ROD UNIT DIGIT ONE@119648dTWOcHREEfFOURdIVEeSIXcEVENfEIGHTfNINEpTENS DIGIT ONEdTWOcHREE
fFOURdIVEeSIXcEVENfEIGHTfNINEzdIDEOGRAPHIC TALLY MARK ONEdTWOcHREEfFOURdIVEzcTALLY MARK ONEdFIVE
pMATHEMATICAL BOLD CAPITAL A@119808bBbCbDbEbFbGbHbIbJbKbLbMbNbObPbQbRbSbTbUbVbWbXbYbZjSMALL AbBbC
bDbEbFbGbHbIbJbKbLbMbNbObPbQbRbSbTbUbVbWbXbYbZmITALIC CAPITAL AbBbCbDbEbFbGbHbIbJbKbLbMbNbObPbQbR
bSbTbUbVbWbXbYbZjSMALL AbBbCbDbEbFbGbI@119894bJbKbLbMbNbObPbQbRbSbTbUbVbWbXbYbZ
oBOLD ITALIC CAPITAL AbBbCbDbEbFbGbHbIbJbKbLbMbNbObPbQbRbSbTbUbVbWbXbYbZjSMALL AbBbCbDbEbFbGbHbIbJ
bKbLbMbNbObPbQbRbSbTbUbVbWbXbYbZtSCRIPT CAPITAL AbC@119966bDbG@119970bJ@119973bKbN@119977bObPbQ
bS@119982bTbUbVbWbXbYbZjSMALL AbBbCbDbF@119995bH@119997bIbJbKbLbMbNbP@120005bQbRbSbTbUbVbWbXbYbZ
oBOLD SCRIPT CAPITAL AbBbCbDbEbFbGbHbIbJbKbLbMbNbObPbQbRbSbTbUbVbWbXbYbZjSMALL AbBbCbDbEbFbGbHbIbJ
bKbLbMbNbObPbQbRbSbTbUbVbWbXbYbZtFRAKTUR CAPITAL AbBbD@120071bEbFbGbJ@120077bKbLbMbNbObPbQ
bS@120086bTbUbVbWbXbYjSMALL A@120094bBbCbDbEbFbGbHbIbJbKbLbMbNbObPbQbRbSbTbUbVbWbXbYbZ
pDOUBLE-STRUCK CAPITAL AbBbD@120123bEbFbGbI@120128bJbKbLbMbO@120134bS@120138bTbUbVbWbXbY
jSMALL A@120146bBbCbDbEbFbGbHbIbJbKbLbMbNbObPbQbRbSbTbUbVbWbXbYbZvBOLD FRAKTUR CAPITAL AbBbCbDbEbF
bGbHbIbJbKbLbMbNbObPbQbRbSbTbUbVbWbXbYbZjSMALL AbBbCbDbEbFbGbHbIbJbKbLbMbNbObPbQbRbSbTbUbVbWbXbYbZ
uSANS-SERIF CAPITAL AbBbCbDbEbFbGbHbIbJbKbLbMbNbObPbQbRbSbTbUbVbWbXbYbZjSMALL AbBbCbDbEbFbGbHbIbJ
bKbLbMbNbObPbQbRbSbTbUbVbWbXbYbZhBOLD CAPITAL AbBbCbDbEbFbGbHbIbJbKbLbMbNbObPbQbRbSbTbUbVbWbXbYbZ
jSMALL AbBbCbDbEbFbGbHbIbJbKbLbMbNbObPbQbRbSbTbUbVbWbXbYbZmITALIC CAPITAL AbBbCbDbEbFbGbHbIbJbKbL
bMbNbObPbQbRbSbTbUbVbWbXbYbZjSMALL AbBbCbDbEbFbGbHbIbJbKbLbMbNbObPbQbRbSbTbUbVbWbXbYbZ
oBOLD ITALIC CAPITAL AbBbCbDbEbFbGbHbIbJbKbLbMbNbObPbQbRbSbTbUbVbWbXbYbZjSMALL AbBbCbDbEbFbGbHbIbJ
bKbLbMbNbObPbQbRbSbTbUbVbWbXbYbZzfMONOSPACE CAPITAL AbBbCbDbEbFbGbHbIbJbKbLbMbNbObPbQbRbSbTbUbVbW
bXbYbZjSMALL AbBbCbDbEbFbGbHbIbJbKbLbMbNbObPbQbRbSbTbUbVbWbXbYbZrITALIC SMALL DOTLESS IbJ
wBOLD CAPITAL ALPHA@120488fBETAeGAMMAfDELTAfEPSILONhZETAeETAdTHETAfIOTAeKAPPAfLAMDAfMUcNUcXI
cOMICRONhPIcRHOdTHETA SYMBOLmSIGMAfTAUdUPSILONhPHIdCHIdPSIdOMEGAnNABLAfSMALL ALPHAfBETAeGAMMA
fDELTAfEPSILONhZETAeETAdTHETAfIOTAeKAPPAfLAMDAfMUcNUcXIcOMICRONhPIcRHOdFINAL SIGMAlSIGMAfTAU
dUPSILONhPHIdCHIdPSIdOMEGAlPARTIAL DIFFERENTIALuEPSILON SYMBOLoTHETA SYMBOLmKAPPA SYMBOL
mPHI SYMBOLkRHO SYMBOLkPI SYMBOLoITALIC CAPITAL ALPHAfBETAeGAMMAfDELTAfEPSILONhZETAeETAdTHETAfIOTA
eKAPPAfLAMDAfMUcNUcXIcOMICRONhPIcRHOdTHETA SYMBOLmSIGMAfTAUdUPSILONhPHIdCHIdPSIdOMEGAnNABLA
fSMALL ALPHAfBETAeGAMMAfDELTAfEPSILONhZETAeETAdTHETAfIOTAeKAPPAfLAMDAfMUcNUcXIcOMICRONhPIcRHO
dFINAL SIGMAlSIGMAfTAUdUPSILONhPHIdCHIdPSIdOMEGAlPARTIAL DIFFERENTIALuEPSILON SYMBOLoTHETA SYMBOL
mKAPPA SYMBOLmPHI SYMBOLkRHO SYMBOLkPI SYMBOLqBOLD ITALIC CAPITAL ALPHAfBETAeGAMMAfDELTAfEPSILON
hZETAeETAdTHETAfIOTAeKAPPAfLAMDAfMUcNUcXIcOMICRONhPIcRHOdTHETA SYMBOLmSIGMAfTAUdUPSILONhPHIdCHI
dPSIdOMEGAnNABLAfSMALL ALPHAfBETAeGAMMAfDELTAfEPSILONhZETAeETAdTHETAfIOTAeKAPPAfLAMDAfMUcNUcXI
cOMICRONhPIcRHOdFINAL SIGMAlSIGMAfTAUdUPSILONhPHIdCHIdPSIdOMEGAlPARTIAL DIFFERENTIAL
uEPSILON SYMBOLoTHETA SYMBOLmKAPPA SYMBOLmPHI SYMBOLkRHO SYMBOLkPI SYMBOL
vSANS-SERIF BOLD CAPITAL ALPHAfBETAeGAMMAfDELTAfEPSILONhZETAeETAdTHETAfIOTAeKAPPAfLAMDAfMUcNUcXI
cOMICRONhPIcRHOdTHETA SYMBOLmSIGMAfTAUdUPSILONhPHIdCHIdPSIdOMEGAnNABLAfSMALL ALPHAfBETAeGAMMA
fDELTAfEPSILONhZETAeETAdTHETAfIOTAeKAPPAfLAMDAfMUcNUcXIcOMICRONhPIcRHOdFINAL SIGMAlSIGMAfTAU
dUPSILONhPHIdCHIdPSIdOMEGAlPARTIAL DIFFERENTIALuEPSILON SYMBOLoTHETA SYMBOLmKAPPA SYMBOL
mPHI SYMBOLkRHO SYMBOLkPI SYMBOLjITALIC CAPITAL ALPHAfBETAeGAMMAfDELTAfEPSILONhZETAeETAdTHETAfIOTA
eKAPPAfLAMDAfMUcNUcXIcOMICRONhPIcRHOdTHETA SYMBOLmSIGMAfTAUdUPSILONhPHIdCHIdPSIdOMEGAnNABLA
fSMALL ALPHAfBETAeGAMMAfDELTAfEPSILONhZETAeETAdTHETAfIOTAeKAPPAfLAMDAfMUcNUcXIcOMICRONhPIcRHO
dFINAL SIGMAlSIGMAfTAUdUPSILONhPHIdCHIdPSIdOMEGAlPARTIAL DIFFERENTIALuEPSILON SYMBOLoTHETA SYMBOL
mKAPPA SYMBOLmPHI SYMBOLkRHO SYMBOLkPI SYMBOLzhBOLD CAPITAL DIGAMMApSMALL DIGAMMA
nDIGIT ZERO@120782eONEdTWOcHREEfFOURdIVEeSIXcEVENfEIGHTfNINEpDOUBLE-STRUCK DIGIT ZEROeONEdTWOcHREE
fFOURdIVEeSIXcEVENfEIGHTfNINEySANS-SERIF DIGIT ZEROeONEdTWOcHREEfFOURdIVEeSIXcEVENfEIGHTfNINE
kBOLD DIGIT ZEROeONEdTWOcHREEfFOURdIVEeSIXcEVENfEIGHTfNINEzbMONOSPACE DIGIT ZEROeONEdTWOcHREEfFOUR
dIVEeSIXcEVENfEIGHTfNINEziSIGNWRITING HAND-FIST INDEXkCIRCLE INDEXlUP INDEXjOVAL INDEXkHINGE INDEX
lANGLE INDEXlFIST INDEX BENTpCIRCLE INDEX BENTrFIST THUMB UNDER INDEX BENTwINDEX RAISED KNUCKLE
oCUPPEDgHINGEDa LOWvCIRCLE INDEX HINGEsFIST INDEX MIDDLErCIRCLE INDEX MIDDLE
tFIST INDEX MIDDLE BENTeRAISED KNUCKLESpHINGEDnUP MIDDLE HINGEDqHINGED MIDDLE UPqMIDDLE CONJOINED
a INDEX BENTkMIDDLE BENTlCUPPEDgHINGEDpROSSEDzaCIRCLE INDEX MIDDLE CROSSED
zcFIST MIDDLE BENT OVER INDEXwINDEX BENT OVER MIDDLEqMIDDLE THUMBxCIRCLE INDEX MIDDLE THUMB
zaFIST INDEX MIDDLE STRAIGHT THUMB BENTtBENT THUMB STRAIGHTtTHUMB BENTkHINGED SPREAD THUMB SIDE
zgUP MIDDLE HINGED THUMB SIDEeCONJOINEDzhHINGED MIDDLE UP THUMB SIDE
zcMIDDLE UP SPREAD THUMB FORWARDxTHUMB CUPPEDfIRCLEDhHOOKEDfINGED
zaTHUMB BETWEEN INDEX MIDDLE STRAIGHTzkINDEX MIDDLE CONJOINED THUMB SIDEa CONJOINEDjBENT
znMIDDLE THUMB HOOKED INDEX UPzdINDEX THUMB HOOKED MIDDLE UPwMIDDLE CONJOINED HINGED THUMB SIDE
zbROSSED THUMB SIDErONJOINED THUMB FORWARDnCUPPED THUMB FORWARDzsMIDDLE THUMB CUPPED INDEX UP
zdINDEX THUMB CUPPED MIDDLE UPzdMIDDLE THUMB CIRCLED INDEX UPcHINGED
ziINDEX THUMB ANGLED OUT MIDDLE UPnIN MIDDLE UPtCIRCLED MIDDLE UPxMIDDLE THUMB CONJOINED HINGED
qANGLED OUTe@120895zaMIDDLE THUMB ANGLED OUT INDEX UPcCROSSEDrINDEX UP
zdINDEX THUMB HOOKED MIDDLE HINGEDzlLAT FOUR FINGERSa BENTeHINGEDgCONJOINEDa SPLIT
ziCLAW FOUR FINGERS CONJOINEDzcFIST FOUR FINGERS CONJOINED BENTzhHINGE FOUR FINGERS CONJOINED
zdFLAT FIVE FINGERS SPREADtHEEL FIVE FINGERS SPREADyFIVE FINGERS SPREAD FOUR BENT
zeHEEL FIVE FINGERS SPREAD FOUR BENTzjFIVE FINGERS SPREAD BENTyHEEL FIVE FINGERS SPREAD BENT
zeFIVE FINGERS SPREAD THUMB FORWARDznCUP FIVE FINGERS SPREADa OPENzdHINGE FIVE FINGERS SPREAD OPEN
zfOVAL FIVE FINGERS SPREADyFLAT FIVE FINGERS SPREAD HINGEDa THUMB SIDEkNO THUMBzl@120922
a BETWEEN PALM FACINGSuHEELeTHUMB SIDEkHEEL THUMB SIDEpTHUMB BENTeFORWARDnSPLIT INDEX THUMB SIDE
qCENTREa THUMB SIDEa BENTwLITTLErCLAWa THUMB SIDEkNO THUMBiTHUMB FORWARDsHOOK CURLICUEj@120939
eCUP OPENf@120941a OPEN THUMB SIDEpTHUMB SIDEkOPEN NO THUMBnNO THUMBiOPEN THUMB FORWARD
sTHUMB FORWARDpRLICUE OPENf@120949hIRCLEgOVALa THUMB SIDEkNO THUMBiTHUMB FORWARDsHINGE OPEN
a THUMB FORWARDt@120957a SMALLfOPEN THUMB SIDEpTHUMB SIDEkOPEN NO THUMBnNO THUMB
iTHUMB SIDE TOUCHING INDEXtBETWEEN MIDDLE RINGzgANGLEfFIST INDEX MIDDLE RING
wCIRCLE INDEX MIDDLE RINGyHINGE INDEX MIDDLE RINGxANGLE INDEX MIDDLE RINGxHINGE LITTLE
mFIST INDEX MIDDLE RING BENTeCONJOINEDzhHINGE INDEX MIDDLE RING CONJOINEDziFIST LITTLE DOWN
a RIPPLE STRAIGHTiCURVEDnOTHERS CIRCLEDtUPjTHUMB UNDER LITTLE UPzbCIRCLE LITTLE UPqOVAL LITTLE UP
oANGLE LITTLE UPpFIST LITTLE RAISED KNUCKLEoBENTeTOUCHES THUMBmHUMBrHINGE LITTLE THUMB
sFIST LITTLE INDEX THUMBxHINGE LITTLE INDEX THUMByANGLE LITTLE INDEX THUMB INDEX THUMB OUTe@120991
zlFIST LITTLE INDEXrCIRCLE LITTLE INDEXtHINGE LITTLE INDEXsANGLE LITTLE INDEX
sFIST INDEX MIDDLE LITTLEyCIRCLE INDEX MIDDLE LITTLEzbHINGE INDEX MIDDLE LITTLEtRING
kANGLE INDEX MIDDLE LITTLEzaFIST INDEX MIDDLE CROSS LITTLEzfCIRCLE INDEX MIDDLE CROSS LITTLE
zhFIST RING DOWNoHINGE RING DOWN INDEX THUMB HOOK MIDDLEzoANGLE RING DOWN MIDDLE THUMB INDEX CROSS
zpFIST RING UPcRAISED KNUCKLEoLITTLEqCIRCLE RING LITTLEsOVAL RING LITTLEqANGLE RING LITTLE
rFIST RING MIDDLEa CONJOINEDjRAISED KNUCKLESwINDEXfTHUMBpHOOK RING THUMBpFIST INDEX RING LITTLE
wCIRCLE INDEX RING LITTLExURLICUE INDEX RING LITTLE ONzeHOOK INDEX RING LITTLE OUTdINcUNDER
zdCUP INDEX RING LITTLEvHINGE INDEX RING LITTLExANGLE INDEX RING LITTLE OUTe@121027
xFIST MIDDLE DOWNqHINGE MIDDLEmFIST MIDDLE UPoCIRCLE MIDDLE UPqFIST MIDDLE RAISED KNUCKLE
oUP THUMB SIDEzaHOOK MIDDLE THUMBrFIST MIDDLE THUMB LITTLEmLITTLEgRING LITTLE
xCIRCLE MIDDLE RING LITTLEyURLICUE MIDDLE RING LITTLE ONzdP MIDDLE RING LITTLE
wHINGE MIDDLE RING LITTLEyANGLE MIDDLE RING LITTLE OUTdINd@121044yCIRCLE MIDDLE RING LITTLE BENT
zeLAW MIDDLE RING LITTLE CONJOINEDa SIDEznHOOK MIDDLE RING LITTLE CONJOINED OUTdINd@121050
zhINGE INDEX HINGEDsFIST INDEX THUMB SIDEvHINGE INDEX THUMB SIDE
wFIST INDEX THUMB SIDE THUMB DIAGONALiCONJOINEDjBENTkINDEX BENTkBOTH BENTjINDEX HINGE
qFORWARD INDEX STRAIGHTiBENTsHOOKeCURLICUEfVE THUMB INSIDEzkCLAW INDEX THUMB CURVE THUMB INSIDE
zkFIST INDEX THUMB CURVE THUMB UNDERqIRCLExCUP INDEX THUMBa OPENuHINGE INDEX THUMB OPENeLARGE
g@121072a SMALLxANGLE INDEX THUMB OUTdINd@121076rFIST THUMBa HEELeSIDE DIAGONALiCONJOINEDjBENT
jFORWARDhBETWEEN INDEX MIDDLEmMIDDLE RINGlRING LITTLEtUNDER TWO FINGERSrOVER TWO FINGERS
qUNDER THREE FINGERSnFOUR FINGERSsOVER FOUR RAISED KNUCKLESzh@121091a HEELoTOUCH SINGLEgMULTIPLE
iBETWEENnGRASP SINGLEgMULTIPLEiBETWEENnSTRIKE SINGLEgMULTIPLEiBETWEENoBRUSH SINGLEgMULTIPLE
iBETWEENnRUB SINGLEgMULTIPLEiBETWEENlSURFACE SYMBOLShBETWEENoQUEEZE LARGE SINGLEmSMALL SINGLE
mLARGE MULTIPLEoSMALL MULTIPLEnEQUENTIALsFLICK LARGE SINGLEmSMALL SINGLEmLARGE MULTIPLE
oSMALL MULTIPLEnEQUENTIALqSQUEEZE FLICK ALTERNATINGzaMOVEMENT-HINGE UP DOWN LARGEfSMALLkSEQUENTIAL
nDOWN SEQUENTIALpUP DOWN ALTERNATING LARGEfSMALLzaSIDE TO SIDE SCISSORSzcWALLPLANE FINGER CONTACT
yFLOORPLANE FINGER CONTACTzaWALLPLANE SINGLE STRAIGHT SMALLfMEDIUMgLARGEaSTqWRIST FLEX
rDOUBLE STRAIGHTiWRIST FLEXkALTERNATINGa WRIST FLEXzeCROSSfTRIPLE STRAIGHT MOVEMENTrWRIST FLEX
kALTERNATINGa WRIST FLEXzeBEND SMALLfMEDIUMgLARGEkCORNER SMALLfMEDIUMgLARGEfROTATIONoHECK SMALL
fMEDIUMgLARGElBOX SMALLfMEDIUMgLARGEjZIGZAG SMALLfMEDIUMgLARGEmPEAKS SMALLfMEDIUMgLARGE
zfTRAVEL-WALLPLANE ROTATION-WALLPLANE SINGLEgDOUBLEgALTERNATINGvFLOORPLANE SINGLEgDOUBLE
gALTERNATINGzgSHAKINGhARM SPIRAL SINGLEgDOUBLEgTRIPLEzjMOVEMENT-DIAGONAL AWAY SMALLfMEDIUMgLARGE
aSTmTOWARDS SMALLfMEDIUMgLARGEaSTpBETWEEN AWAY SMALLfMEDIUMgLARGEaSTmTOWARDS SMALLfMEDIUMgLARGEaST
zhFLOORPLANE SINGLE STRAIGHT SMALLfMEDIUMgLARGEaSTqWRIST FLEXrDOUBLE STRAIGHTiWRIST FLEX
kALTERNATINGa WRIST FLEXzeCROSSfTRIPLE STRAIGHT MOVEMENTrWRIST FLEXkALTERNATING MOVEMENT
iWRIST FLEXzeBENDeCORNER SMALLfMEDIUMgLARGElHECKfBOX SMALLfMEDIUMgLARGEjZIGZAG SMALLfMEDIUMgLARGE
mPEAKS SMALLfMEDIUMgLARGEzgTRAVEL-FLOORPLANE ROTATION-FLOORPLANE SINGLEgDOUBLEgALTERNATING
wWALLPLANE SINGLEgDOUBLEgALTERNATINGzfSHAKINGzaMOVEMENT-WALLPLANE CURVE QUARTER SMALLfMEDIUMgLARGE
aSTpHALF-CIRCLE SMALLfMEDIUMgLARGEaSTtTHREE-QUARTER CIRCLE SMALLfMEDIUMziHUMP SMALLfMEDIUMgLARGE
kLOOP SMALLfMEDIUMgLARGEfSMALL DOUBLErWAVE CURVE DOUBLE SMALLfMEDIUMgLARGEmTRIPLE SMALLfMEDIUM
gLARGExCURVE THEN STRAIGHToD CROSS SMALLfMEDIUMznROTATION-WALLPLANE SINGLEgDOUBLEgALTERNATE
zdMOVEMENT-WALLPLANE SHAKINGhCURVE HITTING FRONT WALLyHUMP HITTING FRONT WALL
xLOOP HITTING FRONT WALLxWAVE HITTING FRONT WALLzrROTATION-WALLPLANE SINGLE HITTING FRONT WALL
zaDOUBLE HITTING FRONT WALLzaALTERNATING HITTING FRONT WALL
zyMOVEMENT-WALLPLANE CURVE HITTING CHESTtHUMP HITTING CHESTsLOOP HITTING CHESTsWAVE HITTING CHEST
zmROTATION-WALLPLANE SINGLE HITTING CHESTuDOUBLE HITTING CHESTuALTERNATING HITTING CHEST
ztMOVEMENT-WALLPLANE WAVE DIAGONAL PATH SMALLfMEDIUMgLARGEzjFLOORPLANE CURVE HITTING CEILING SMALL
fLARGEzcHUMP HITTING CEILING SMALL DOUBLEmLARGE DOUBLEmSMALL TRIPLEmLARGE TRIPLE
ziLOOP HITTING CEILING SMALL SINGLEmLARGE SINGLEmSMALL DOUBLEmLARGE DOUBLE
ziWAVE HITTING CEILING SMALLfLARGEzvROTATION-FLOORPLANE SINGLE HITTING CEILING
wDOUBLE HITTING CEILINGwALTERNATING HITTING CEILINGzwMOVEMENT-FLOORPLANE CURVE HITTING FLOOR SMALL
fLARGEzaHUMP HITTING FLOOR SMALL DOUBLEmLARGE DOUBLEmTRIPLE SMALL TRIPLEmLARGE TRIPLE
znLOOP HITTING FLOOR SMALL SINGLEmLARGE SINGLEmSMALL DOUBLEmLARGE DOUBLEzgWAVE HITTING FLOOR SMALL
fLARGEztROTATION-FLOORPLANE SINGLE HITTING FLOORuDOUBLE HITTING FLOORuALTERNATING HITTING FLOOR
zuMOVEMENT-FLOORPLANE CURVE SMALLfMEDIUMgLARGEaSThCOMBINEDoHUMP SMALLkLOOP SMALLkWAVE SNAKEeMALL
fLARGEzfROTATION-FLOORPLANE SINGLEgDOUBLEgALTERNATINGzgMOVEMENT-FLOORPLANE SHAKING PARALLEL
zcWALLPLANE ARM CIRCLE SMALL SINGLEmMEDIUM SINGLEnSMALL DOUBLEmMEDIUM DOUBLE
zjFLOORPLANE ARM CIRCLE HITTING WALL SMALL SINGLEmMEDIUM SINGLEnLARGE SINGLEmSMALL DOUBLE
mMEDIUM DOUBLEnLARGE DOUBLEzwWALLPLANE WRIST CIRCLE FRONT SINGLEgDOUBLE
zkFLOORPLANE WRIST CIRCLE HITTING WALL SINGLEgDOUBLEzsWALLPLANE FINGER CIRCLES SINGLEgDOUBLE
zgFLOORPLANE FINGER CIRCLES HITTING WALL SINGLEgDOUBLEzzeDYNAMIC ARROWHEAD SMALLfLARGEpFASTeSLOW
eTENSEfRELAXEDhSIMULTANEOUSa ALTERNATINGyEVERY OTHER TIMEqGRADUALpHEADa RIM
dMOVEMENT-WALLPLANE STRAIGHTiTILToFLOORPLANE STRAIGHTtWALLPLANE CURVEpFLOORPLANE CURVEr CIRCLE
uFACE DIRECTION POSITION NOSE FORWARD TILTINGpUP OR DOWNa TILTINGzwEYEBROWS STRAIGHT UPcNEUTRAL
hDOWNwDREAMY EYEBROWS NEUTRAL DOWNmDOWN NEUTRALmUP NEUTRALkNEUTRAL UPzbFOREHEAD NEUTRALhCONTACT
hWRINKLEDrEYES OPENeSQUEEZEDiCLOSEDi BLINK SINGLEgMULTIPLEpS HALF OPENjWIDE OPENjHALF CLOSED
lWIDENING MOVEMENTt WINKfLASHES UPcDOWNeFLUTTERINGrGAZE-WALLPLANE STRAIGHTa DOUBLEgALTERNATING
zfFLOORPLANE STRAIGHTa DOUBLEgALTERNATINGzgWALLPLANE CURVEDqFLOORPLANE CURVEDrWALLPLANE CIRCLING
zbCHEEKS PUFFEDgNEUTRALhSUCKEDnTENSE CHEEKS HIGHeMIDDLEgLOWqEARSeNOSE NEUTRALhCONTACThWRINKLES
hIGGLESmAIR BLOWING OUTlSUCKING INkBLOW SMALL ROTATIONSuSUCK SMALL ROTATIONSyBREATH INHALEgEXHALE
nMOUTH CLOSED NEUTRALhFORWARDhCONTACToSMILEa WRINKLEDiOPENkFROWNa WRINKLEDiOPENkOPEN CIRCLE
gFORWARDhWRINKLEDiOVALa WRINKLEDiYAWNjRECTANGLEa WRINKLEDiYAWNtKISSa FORWARDhWRINKLEDnTENSE
a FORWARDhSUCKEDsLIPS PRESSED TOGETHERs LOWER OVER UPPERqUPPER OVER LOWERuMOUTH CORNERS
hWRINKLES SINGLEgDOUBLEvTONGUE STICKING OUT FARqLICKING LIPSmTIP BETWEEN LIPS
mTOUCHING INSIDE MOUTHzaINSIDE MOUTH RELAXEDuMOVES AGAINST CHEEKtCENTRE STICKING OUTmINSIDE MOUTH
zaEETHa MOVEMENTiON TONGUEa MOVEMENTpLIPSa MOVEMENTqBITE LIPSpMOVEMENT-WALLPLANE JAW
nFLOORPLANE JAWxNECKeHAIReEXCITEMENTkSHOULDER HIP SPINEfPOSITIONSwWALLPLANE SHOULDER HIP MOVE
zcFLOORPLANE SHOULDER HIP MOVEzdSHOULDER TILTING FROM WAISTzcTORSO-WALLPLANE STRAIGHT STRETCH
qCURVED BENDvFLOORPLANE TWISTINGzaUPPER BODY TILTING FROM HIP JOINTSzjLIMB COMBINATIONlLENGTH-1b2
b3b4b5b6b7nFINGERgLOCATION-WALLPLANE SPACEpFLOORPLANE SPACEr HEIGHTgWIDTHfDEPTHfHEAD NECKjTORSO
fLIMBS DIGITSvCOMMAfFULL STOPjSEMICOLONjCOLONfPARENTHESISlFILL MODIFIER-2@121499b3b4b5b6
pROTATION MODIFIER-2@121505b3b4b5b6b7b8b9b10b1b2b3b4b5b6
zhLATIN SMALL LETTER FENG DIGRAPH WITH TRILL@122624xREVERSED SCRIPT G
zfLETTER SMALL CAPITAL TURNED GzeSMALL LETTER REVERSED KxLETTER SMALL CAPITAL L WITH BELT
zhSMALL LETTER LEZH WITH RETROFLEX HOOKyTURNED Y WITH BELTsREVERSED ENG
mTURNED R WITH LONG LEG AND RETROFLEX HOOKzp WITH HOOK AND RETROFLEX HOOK
zsLETTER RETROFLEX CLICK WITH RETROFLEX HOOKzrSMALL LETTER ESH WITH DOUBLE BARa AND CURL
zdTURNED T WITH CURLzgLETTER INVERTED GLOTTAL STOP WITH CURLzgSTRETCHED C WITH CURL
uMALL CAPITAL TURNED KzeSMALL LETTER L WITH FISHHOOKpDEZH DIGRAPH WITH PALATAL HOOK
zfL WITH BELT AND PALATAL HOOKzdENG WITH PALATAL HOOKvTURNED R WITH PALATAL HOOK
zbR WITH FISHHOOK AND PALATAL HOOKzhTESH DIGRAPH WITH PALATAL HOOKzfEZH WITH PALATAL HOOK
vDEZH DIGRAPH WITH RETROFLEX HOOKzhI WITH STROKE AND RETROFLEX HOOKzhO WITH RETROFLEX HOOK
vTESH DIGRAPH WITH RETROFLEX HOOKzhC WITH RETROFLEX HOOKvS WITH CURL
zfCOMBINING GLAGOLITIC LETTER AZU@122880dBUKYeVEDEeGLAGOLIhDOBROfYESTUfZHIVETEgEMLJA@122888gIZHE
dNITIAL IZHEl@122891bDJERVIgKAKOeLJUDIJEhMYSLITEhNASHIfONUdPOKOJIgRITSIfSLOVOfTVRIDOgUKUdFRITU
fHERUeSHTA@122907eTSIdCHRIVIgSHAdYERUbIdATIdU@122915cSMALL YUSjYO@122918cIOTATED SMALL YUSrBIG YUS
hIOTATED BIG YUSpFITAzhNYIAKENG PUACHUE HMONG LETTER MA@123136cTSAdNTAdTAcHAcNAcXAcNKAdCAcLAcSAcZA
cNCAcTSAeKAcDAcNYAcRAdVAcNTXAeTXAdFAcRAcQAcYAcNQAdPAcXYAdNPAdDLAdNPLAeHAHdMLAdPLAdGAcRRAdAaAcIbUbO
aOcEaEcWiTONE-B@123184bMbJbVbSbGbDgSIGN FOR PERSONgTHINGfLOCATIONiANIMALgINVERTEBRATEqXW XW
jYLLABLE LENGTHENERtDIGIT ZERO@123200eONEdTWOcHREEfFOURdIVEeSIXcEVENfEIGHTfNINE
kLOGOGRAM NYAJ@123214nCIRCLED CAziTOTO LETTER PA@123536cBAcTAcDAcKAcGAcMAcNAbGAdSAcCHAdYAcWAcJAcHA
cRAcLAcIbBREATHY IjIUcBREATHY IUkUbEbBREATHY EjEOcBREATHY EOkObAEcBREATHY AEkAiSIGN RISING TONE
vWANCHO LETTER AA@123584b@123585bBAcCAcDAcGAcYAcPHAdLAcNAcPAcTAbHAdFAcSAbHAdJAcZAcWAcVAcKAcObAUcRA
cMAcKHAdHAcEbIbNGAdUbLLHAeTSAcRAdONGdAANGdNGdINGdONcENcAANdNYAdUENdYIHkTONE TUPaNIfKOIaNI
kDIGIT ZEROeONEdTWOcHREEfFOURdIVEeSIXcEVENfEIGHTfNINEkNGUN SIGN@123647
qETHIOPIC SYLLABLE HHYA@124896bUbIbAAcEEb@124901bOeGURAGE HHWA@124904lHHWIbEEb@124907
eGURAGE MWI@124909bEEeQWI@124912bEEb@124914dBWIbEEeKWIbEEb@124919dGWIbEEb@124922dFWIbEEePWIbEE
zeMENDE KIKAKUI SYLLABLE M001 KI@124928e2 KAe3 KUf65 KEEg95 KEf76 KOOg48 KOg179 KUAh004 WIe5 WA
e6 WUg126 WEEg18 WEe4 WOOh045 WOg194 WUIg43 WEIh061 WVIg49 WVAh139 WVEh007 MINf8 MANf9 MUNg59 MEN
g94 MONh154 MUANh89 MUENi010 BIe1 BAe2 BUg150 BEEh097 BEg103 BOOg38 BOg013 Id4 Ad5 Uf163 EEf00 E
e65 OOf47 Oe37 EIe1 INe5 INf95 ANf78 ENg019 SIf20 SAe1 SUg162 SEEg16 SEf36 SOOh079 SOg196 SIA
h025 LIe6 LAe7 LUf84 LEEg73 LEf54 LOOh153 LOf10 LONG LEl016 DIe7 DAe8 DUf89 DEEh180 DOOf1 DO
g022 TIe3 TAe4 TUf91 TEEg55 TEg104 TOOh069 TOf28 JIe9 JAf30 JUg157 JEEg13 JEf60 JOOh063 JO
g175 LONG JOl031 YIe2 YAe3 YUg109 YEEh080 YEg141 YOOg21 YOg034 FIe5 FAe6 FUf78 FEEf5 FEg133 FOO
h088 FOg197 FUAg01 FANh037 NINf8 NANf9 NUNh117 NENg69 NONg76 HIg041 HAg186 HUg040 HEEg96 HEf42 HOO
h140 HOg083 HEEIi128 HOOUi053 HINh130 HANh087 HUNg52 HENh193 HONh046 HUANh90 NGGIh43 NGGAh82 NGGU
i115 NGGEEi46 NGGEh56 NGGOOi20 NGGOh59 NGGAAi27 NGGUAj086 LONG NGGEn106 LONG NGGOOn83 LONG NGGO
m55 GIf11 GAf68 GUf90 GEEg66 GUEIg7 GUANh84 NGENi057 NGONi177 NGUANj068 PIf99 PAf50 PUf81 PEE
g51 PEg102 POOh066 POg145 MBIh062 MBAh122 MBUh047 MBEEi188 MBEEi072 MBEh172 MBOOg4 MBOg87 MBUU
h61 LONG MBEl05 LONG MBOOm42 LONG MBOl32 KPIh092 KPAg74 KPUg44 KPEEi108 KPEg12 KPOOh58 KPOg24 GBI
h056 GBAh148 GBUh093 GBEEi107 GBEh071 GBOOg0 GBOh171 RAf23 NDIf9 NDAf5 NDUg91 NDEEh19 NDEh067 NDOO
g4 NDOh152 NJAg92 NJUg49 NJEEh34 NJOOh82 VIe5 VAf51 VUf73 VEEh085 VEg144 VOOh077 VOg164 NYIN
i058 NYANi170 NYUNi098 NYENh60 NYONsDIGIT ONE@125127dTWOcHREEfFOURdIVEeSIXcEVENfEIGHTfNINE
kCOMBINING NUMBER TEENSdNSeHUNDREDSiTHOUSANDSiEN THOUSANDSnHUNDRED THOUSANDSrMILLIONS
zoADLAM CAPITAL LETTER ALIF@125184eDAALIfLAAMeMIIMeBAcSINNYIIYHEkPEcBHEdRAcEbFAcIbObDHAdYHEdWAW
dNUNdKAFdYAcUbJIIMeCHIdHAcQAAFeGAcNYAdTUcNHAdVAcKHAdGBEdZALdKPOdSHAsSMALL LETTER ALIFeDAALIfLAAM
eMIIMeBAcSINNYIIYHEkPEcBHEdRAcEbFAcIbObDHAdYHEdWAWdNUNdKAFdYAcUbJIIMeCHIdHAcQAAFeGAcNYAdTUcNHAdVA
cKHAdGBEdZALdKPOdSHAqALIF LENGTHENERpVOWEL LENGTHENERqGEMINATION MARKpHAMZAfCONSONANT MODIFIER
sGEMINATE CONSONANT MODIFIERzcNUKTAeASALIZATION MARKrDIGIT ZERO@125264eONEdTWOcHREEfFOURdIVEeSIX
cEVENfEIGHTfNINEkINITIAL EXCLAMATION MARK@125278qQUESTION MARKzcINDIC SIYAQ NUMBER ONE@126065dTWO
cHREEfFOURdIVEeSIXcEVENfEIGHTfNINEeTENcWENTYfHIRTYgFORTYeIFTYfSIXTYeEVENTYhEIGHTYgNINETY
gONE HUNDREDlTWO HUNDREDkHREE HUNDREDnFOUR HUNDREDlIVE HUNDREDmSIX HUNDREDkEVEN HUNDRED
nEIGHT HUNDREDnNINE HUNDREDmONE THOUSANDmTWO THOUSANDlHREE THOUSANDoFOUR THOUSANDmIVE THOUSAND
nSIX THOUSANDlEVEN THOUSANDoEIGHT THOUSANDoNINE THOUSANDnTEN THOUSANDlWENTY THOUSAND
oHIRTY THOUSANDpFORTY THOUSANDnIFTY THOUSANDoSIXTY THOUSANDnEVENTY THOUSANDqEIGHTY THOUSAND
pNINETY THOUSANDpLAKHaANnLAKH MARKjNUMBER KARORaANhPREFIXED ONEdTWOcHREEfFOURdIVEeSIXcEVENfEIGHT
fNINEuPLACEHOLDERlFRACTION ONE QUARTERhHALFiTHREE QUARTERSxRUPEE MARKkNUMBER ALTERNATE ONEdTWO
cEN THOUSANDzeALTERNATE LAKH MARKzgOTTOMAN SIYAQ NUMBER ONE@126209dTWOcHREEfFOURdIVEeSIXcEVEN
fEIGHTfNINEeTENcWENTYfHIRTYgFORTYeIFTYfSIXTYeEVENTYhEIGHTYgNINETYgONE HUNDREDlTWO HUNDRED
kHREE HUNDREDnFOUR HUNDREDlIVE HUNDREDmSIX HUNDREDkEVEN HUNDREDnEIGHT HUNDREDnNINE HUNDRED
mONE THOUSANDmTWO THOUSANDlHREE THOUSANDoFOUR THOUSANDmIVE THOUSANDnSIX THOUSANDlEVEN THOUSAND
oEIGHT THOUSANDoNINE THOUSANDnTEN THOUSANDlWENTY THOUSANDoHIRTY THOUSANDpFORTY THOUSAND
nIFTY THOUSANDoSIXTY THOUSANDnEVENTY THOUSANDqEIGHTY THOUSANDpNINETY THOUSANDwMARRATAN
iALTERNATE NUMBER TWOcHREEfFOURdIVEeSIXcEVENfEIGHTfNINEeTENdFOUR HUNDREDmSIX HUNDREDlTWO THOUSAND
lEN THOUSANDzeFRACTION ONE HALFeSIXTHzhARABIC MATHEMATICAL ALEF@126464eBEHdJEEMeDALdWAW@126469
dZAINeHAHdTAHdYEHdKAFdLAMdMEEMeNOONeSEENeAINdFEHdSADdQAFdREHdSHEENfTEHcHEHeKHAHeTHALeDADdZAHdGHAIN
fDOTLESS BEHdNOONeFEHdQAFlINITIAL BEH@126497dJEEMeHEH@126500cAH@126503dYEH@126505dKAFdLAMdMEEM
eNOONeSEENeAINdFEHdSADdQAFdSHEEN@126516fTEHcHEHeKHAHeDAD@126521dGHAIN@126523nTAILED JEEM@126530
eHAH@126535dYEH@126537dLAM@126539dNOON@126541eSEENeAINdSAD@126545dQAFdSHEEN@126548fKHAH@126551
eDAD@126553dGHAIN@126555fDOTLESS NOON@126557eQAF@126559sSTRETCHED BEH@126561dJEEMeHEH@126564
cAH@126567dTAHdYEHdKAFdMEEM@126572eNOONeSEENeAINdFEHdSADdQAFdSHEEN@126580fTEHcHEHeKHAHeDAD@126585
dZAHdGHAINfDOTLESS BEHdFEH@126590vLOOPED ALEF@126592eBEHdJEEMeDALdHEHdWAWdZAINeHAHdTAHdYEH
dLAM@126603dMEEMeNOONeSEENeAINdFEHdSADdQAFdREHdSHEENfTEHcHEHeKHAHeTHALeDADdZAHdGHAIN
mDOUBLE-STRUCK BEH@126625dJEEMeDALdWAW@126629dZAINeHAHdTAHdYEHdLAM@126635dMEEMeNOONeSEENeAINdFEH
dSADdQAFdREHdSHEENfTEHcHEHeKHAHeTHALeDADdZAHdGHAINtOPERATOR MEEM WITH HAH WITH TATWEEL@126704
zbHAH WITH DALzqMAHJONG TILE EAST WIND@126976jSOUTH WINDkWEST WINDjNORTH WINDkRED DRAGON
kGREEN DRAGONmWHITE DRAGONmONE OF CHARACTERSrTWO OF CHARACTERSqHREE OF CHARACTERS
tFOUR OF CHARACTERSrIVE OF CHARACTERSsSIX OF CHARACTERSqEVEN OF CHARACTERStEIGHT OF CHARACTERS
tNINE OF CHARACTERSsONE OF BAMBOOSoTWO OF BAMBOOSnHREE OF BAMBOOSqFOUR OF BAMBOOSoIVE OF BAMBOOS
pSIX OF BAMBOOSnEVEN OF BAMBOOSqEIGHT OF BAMBOOSqNINE OF BAMBOOSpONE OF CIRCLESoTWO OF CIRCLES
nHREE OF CIRCLESqFOUR OF CIRCLESoIVE OF CIRCLESpSIX OF CIRCLESnEVEN OF CIRCLESqEIGHT OF CIRCLES
qNINE OF CIRCLESpPLUMeORCHIDgBAMBOOgCHRYSANTHEMUMnSPRINGfUMMERgAUTUMNgWINTERgJOKERfBACK
rDOMINO TILE HORIZONTAL BACK@127024f-00-00b1b2b3b4b5b6e1-00b1b2b3b4b5b6e2-00b1b2b3b4b5b6e3-00b1b2
b3b4b5b6e4-00b1b2b3b4b5b6e5-00b1b2b3b4b5b6e6-00b1b2b3b4b5b6qVERTICAL BACKf-00-00b1b2b3b4b5b6e1-00
b1b2b3b4b5b6e2-00b1b2b3b4b5b6e3-00b1b2b3b4b5b6e4-00b1b2b3b4b5b6e5-00b1b2b3b4b5b6e6-00b1b2b3b4b5b6
zbPLAYING CARD BACK@127136eACE OF SPADESnTWO OF SPADESmHREE OF SPADESpFOUR OF SPADESnIVE OF SPADES
oSIX OF SPADESmEVEN OF SPADESpEIGHT OF SPADESpNINE OF SPADESoTEN OF SPADESnJACK OF SPADES
oKNIGHT OF SPADESqQUEEN OF SPADESpKING OF SPADESoACE OF HEARTS@127153nTWO OF HEARTSmHREE OF HEARTS
pFOUR OF HEARTSnIVE OF HEARTSoSIX OF HEARTSmEVEN OF HEARTSpEIGHT OF HEARTSpNINE OF HEARTS
oTEN OF HEARTSnJACK OF HEARTSoKNIGHT OF HEARTSqQUEEN OF HEARTSpKING OF HEARTSoRED JOKER
jACE OF DIAMONDS@127169pTWO OF DIAMONDSoHREE OF DIAMONDSrFOUR OF DIAMONDSpIVE OF DIAMONDS
qSIX OF DIAMONDSoEVEN OF DIAMONDSrEIGHT OF DIAMONDSrNINE OF DIAMONDSqTEN OF DIAMONDS
pJACK OF DIAMONDSqKNIGHT OF DIAMONDSsQUEEN OF DIAMONDSrKING OF DIAMONDSqBLACK JOKER
lACE OF CLUBS@127185mTWO OF CLUBSlHREE OF CLUBSoFOUR OF CLUBSmIVE OF CLUBSnSIX OF CLUBS
lEVEN OF CLUBSoEIGHT OF CLUBSoNINE OF CLUBSnTEN OF CLUBSmJACK OF CLUBSnKNIGHT OF CLUBS
pQUEEN OF CLUBSoKING OF CLUBSnWHITE JOKERlFOOLeTRUMP-1b2b3b4b5b6b7b8b9b10b1b2b3b4b5b6b7b8b9c20b1
vDIGIT ZERO FULL STOP@127232jCOMMAkONE COMMAjTWO COMMAiHREE COMMAlFOUR COMMAjIVE COMMAkSIX COMMA
iEVEN COMMAlEIGHT COMMAlNINE COMMAoNGBAT CIRCLED SANS-SERIF DIGIT ZERO
zeNEGATIVE CIRCLED SANS-SERIF DIGIT ZEROzvCIRCLED ZERO WITH SLASHpANTICLOCKWISE ARROW
tDOLLAR SIGN WITH OVERLAID BACKSLASHzsPARENTHESIZED LATIN CAPITAL LETTER AbBbCbDbEbFbGbHbIbJbKbLbM
bNbObPbQbRbSbTbUbVbWbXbYbZzlTORTOISE SHELL BRACKETED LATIN CAPITAL LETTER S
zwCIRCLED ITALIC LATIN CAPITAL LETTER CbRzeCDcWZjOPYLEFT SYMBOLpSQUARED LATIN CAPITAL LETTER AbBbC
bDbEbFbGbHbIbJbKbLbMbNbObPbQbRbSbTbUbVbWbXbYbZwHVcMVcSDbScPPVdWC
kNEGATIVE CIRCLED LATIN CAPITAL LETTER AbBbCbDbEbFbGbHbIbJbKbLbMbNbObPbQbRbSbTbUbVbWbXbYbZ
zoRAISED MC SIGNgD SIGNgR SIGNoCIRCLED CCb WITH OVERLAID BACKSLASHzaHUMAN FIGURE
uNEGATIVE SQUARED LATIN CAPITAL LETTER AbBbCbDbEbFbGbHbIbJbKbLbMbNbObPbQbRbSbTbUbVbWbXbYbZ
zoCROSSED NEGATIVE SQUARED LATIN CAPITAL LETTER PzwNEGATIVE SQUARED ICcPAcSAcABcWCtSQUARE DJdD CL
bOOLeFREEeIDcNEWcGcOKcSOSdUP WITH EXCLAMATION MARKyVScTHREE DhSECOND SCREENnTWO KfFOUR KgEIGHT K
hFIVE POINT ONEoSEVEN POINT ONEpTWENTY-TWO POINT TWOuSIXTY PhONE HUNDRED TWENTY P
uLATIN SMALL LETTER DuHCbDRcI-RESgLOSSLESSiSHVdUHDdVODlMASK WORK SYMBOL
qREGIONAL INDICATOR SYMBOL LETTER A@127462bBbCbDbEbFbGbHbIbJbKbLbMbNbObPbQbRbSbTbUbVbWbXbYbZ
zjSQUARE HIRAGANA HOKAoD KATAKANA KOKOeSAlCJK UNIFIED IDEOGRAPH-624B@127504e5B57d3CCzbKATAKANA DE
lCJK UNIFIED IDEOGRAPH-4E8Ce591Ae89E3e5929e4EA4e6620e7121e6599e524DdF8Cd18De65B0e521De7D42d51F
e8CA9e58F0d439e6F14d295d355e4E00b9e904Ae5DE6e4E2De53F3e6307e8D70e6253e7981dA7Ae5408e6E80d709b8
e7533e5272d5B6e914DzjTORTOISE SHELL BRACKETED CJK UNIFIED IDEOGRAPH-672C@127552e4E09c8Ce5B89e70B9
e6253e76D7e52DDe6557zzbCIRCLED IDEOGRAPH ADVANTAGE@127568iCCEPTyROUNDED SYMBOL FOR FU@127584cLU
cSHOUeXIcSHUANGXIiCAIwCYCLONE@127744hFOGGYfCLOSED UMBRELLApNIGHT WITH STARSqSUNRISE OVER MOUNTAINS
p@127749hCITYSCAPE AT DUSKrSUNSET OVER BUILDINGSvRAINBOWhBRIDGE AT NIGHTpWATER WAVEkVOLCANO
hMILKY WAYjEARTH GLOBE EUROPE-AFRICAnAMERICAShSIA-AUSTRALIAzbGLOBE WITH MERIDIANSuNEW MOON SYMBOL
pWAXING CRESCENT MOON SYMBOLzcFIRST QUARTER MOON SYMBOLzaWAXING GIBBOUS MOON SYMBOL
zbFULL MOON SYMBOLqWANING GIBBOUS MOON SYMBOLzbLAST QUARTER MOON SYMBOL
yWANING CRESCENT MOON SYMBOLzcCRESCENT MOONnNEW MOON WITH FACEsFIRST QUARTER MOON WITH FACE
zdLAST QUARTER MOON WITH FACEzcFULL MOON WITH FACEtSUN WITH FACEnGLOWING STARmSHOOTING STAR
nTHERMOMETERlBLACK DROPLETnWHITE SUNa WITH SMALL CLOUDqBEHIND CLOUDa WITH RAINzhCLOUD WITH RAIN
eSNOWeLIGHTNINGjTORNADOsFOGdWIND BLOWING FACErHOT DOGhTACOeBURRITOhCHESTNUTiSEEDLING
iEVERGREEN TREEoDECIDUOUS TREEoPALM TREEjCACTUSgHOT PEPPERkTULIPfCHERRY BLOSSOMoROSEeHIBISCUS
iSUNFLOWERjBLOSSOMhEAR OF MAIZEfRICElHERBeFOUR LEAF CLOVERqMAPLE LEAFkFALLEN LEAF
lLEAF FLUTTERING IN WINDxMUSHROOMiTOMATOgAUBERGINEjGRAPESgMELONfWATERMELONkTANGERINEjLEMONfBANANA
gPINEAPPLEjRED APPLEjGREEN APPLElPEARbCHfCHERRIESiSTRAWBERRYkHAMBURGERjSLICE OF PIZZAoMEAT ON BONE
mPOULTRY LEGlRICE CRACKERhBALLjCOOKED RICEkURRY AND RICEoSTEAMING BOWLmPAGHETTIjBREADfFRENCH FRIES
mROASTED SWEET POTATOuDANGOfODENeSUSHIfFRIED SHRIMPlISH CAKE WITH SWIRL DESIGNzcSOFT ICE CREAM
nHAVED ICEkICE CREAMjDOUGHNUTiCOOKIEfHOCOLATE BARmANDYfLOLLIPOPiCUSTARDhHONEY POTjSHORTCAKE
jBENTO BOXjPOT OF FOODlCOOKINGhFORK AND KNIFEoTEACUP WITHOUT HANDLEvSAKE BOTTLE AND CUPtWINE GLASS
kCOCKTAIL GLASSoTROPICAL DRINKoBEER MUGiCLINKING BEER MUGSsBABY BOTTLElFORK AND KNIFE WITH PLATE
zaBOTTLE WITH POPPING CORKyPOPCORNhRIBBONgWRAPPED PRESENTpBIRTHDAY CAKEnJACK-O-LANTERN
oCHRISTMAS TREEoFATHER CHRISTMASpIREWORKSb SPARKLERrBALLOONhPARTY POPPERmCONFETTI BALL
nTANABATA TREEnCROSSED FLAGSnPINE DECORATIONpJAPANESE DOLLSoCARP STREAMERnWIND CHIME
kMOON VIEWING CEREMONYvSCHOOL SATCHELoGRADUATION CAPoHEART WITH TIP ON THE LEFT
zbBOUQUET OF FLOWERSsMILITARY MEDALoREMINDER RIBBONpMUSICAL KEYBOARD WITH JACKSzcSTUDIO MICROPHONE
rLEVEL SLIDERmCONTROL KNOBSnBEAMED ASCENDING MUSICAL NOTESxDESCENDING MUSICAL NOTESzgFILM FRAMES
lADMISSION TICKETSrCAROUSEL HORSEoFERRIS WHEELmROLLER COASTERoFISHING POLE AND FISHvMICROPHONE
jOVIE CAMERAmCINEMAgHEADPHONEjARTIST PALETTEoTOP HAThCIRCUS TENTlTICKETgCLAPPER BOARD
nPERFORMING ARTSpVIDEO GAMEkDIRECT HITkSLOT MACHINEmBILLIARDSjGAME DIEiBOWLING
hFLOWER PLAYING CARDSuMUSICAL NOTEkLTIPLE MUSICAL NOTESwSAXOPHONEjGUITARgMUSICAL KEYBOARDqTRUMPET
hVIOLINgMUSICAL SCOREnRUNNING SHIRT WITH SASHxTENNIS RACQUET AND BALLxSKI AND SKI BOOT
qBASKETBALL AND HOOPtCHEQUERED FLAGoSNOWBOARDERlRUNNERgSURFERfPORTS MEDALmTROPHYgHORSE RACING
mAMERICAN FOOTBALLrRUGBY FOOTBALLoSWIMMERhWEIGHT LIFTERnGOLFERgRACING MOTORCYCLEkCAR
kCRICKET BAT AND BALLuVOLLEYBALLkFIELD HOCKEY STICK AND BALLzcICE HOCKEY STICK AND PUCK
zaTABLE TENNIS PADDLE AND BALLzdSNOW CAPPED MOUNTAINuCAMPINGhBEACH WITH UMBRELLA
sUILDING CONSTRUCTIONvHOUSE BUILDINGSpCITYSCAPEjDERELICT HOUSE BUILDINGxCLASSICAL BUILDINGsDESERT
a ISLANDnNATIONAL PARKnSTADIUMhHOUSE BUILDINGiWITH GARDENrOFFICE BUILDINGpJAPANESE POST OFFICE
uEUROPEAN POST OFFICEuHOSPITALiBANKeAUTOMATED TELLER MACHINEyHOTELfLOVE HOTELkCONVENIENCE STORE
rSCHOOLgDEPARTMENT STOREqFACTORYhIZAKAYA LANTERNpJAPANESE CASTLEpEUROPEAN CASTLEpWHITE PENNANT
nBLACK PENNANTnWAVING WHITE FLAGkBLACK FLAGrROSETTEhBLACK ROSETTEnLABEL
fBADMINTON RACQUET AND SHUTTLECOCKzhOW AND ARROWnAMPHORAhEMOJI MODIFIER FITZPATRICK TYPE-1-2d3b4b5
b6ziRATdMOUSEfOXcWATER BUFFALOnCOWdTIGERfLEOPARDhRABBITgCATdDRAGONgCROCODILEjWHALEfSNAILcKEfHORSE
fRAMdGOATeSHEEPfMONKEYgROOSTERhCHICKENhDOGdPIGdBOAReELEPHANTiOCTOPUShSPIRAL SHELLmBUGdANTdHONEYBEE
iLADY BEETLElFISHeTROPICAL FISHnBLOWFISHiTURTLEgHATCHING CHICKoBABY CHICKkFRONT-FACING BABY CHICK
xBIRDePENGUINhKOALAfPOODLEgDROMEDARY CAMELpBACTRIAN CAMELoDOLPHINhMOUSE FACEkCOW FACEiTIGER FACE
kRABBIT FACElCAT FACEiDRAGON FACElSPOUTING WHALEoHORSE FACEkMONKEY FACElDOG FACEiPIG FACE
iFROG FACEjHAMSTER FACEmWOLF FACEjBEAR FACEjPANDA FACEjIG NOSEhAW PRINTSkCHIPMUNKiEYESb@128065cAR
dNOSEeMOUTHfTONGUEgWHITE UP POINTING BACKHAND INDEXzbDOWN POINTING BACKHAND INDEX
zdLEFT POINTING BACKHAND INDEXzdRIGHT POINTING BACKHAND INDEXzkFISTED HAND SIGNqWAVING HAND SIGN
qOK HAND SIGNmTHUMBS UP SIGNhDOWN SIGNqCLAPPING HANDS SIGNtOPEN HANDS SIGNpCROWNfWOMANS HAT
kEYEGLASSESkNECKTIEhT-SHIRThJEANSfDRESSfKIMONOgBIKINIgWOMANS CLOTHESoPURSEfHANDBAGhPOUCHfMANS SHOE
jATHLETIC SHOEnHIGH-HEELED SHOEqWOMANS SANDALgBOOTSmFOOTPRINTSkBUST IN SILHOUETTEoS IN SILHOUETTE
sOYdGIRLeMANdWOMANfFAMILYgMAN AND WOMAN HOLDING HANDSzcTWO MEN HOLDING HANDSrWOMEN HOLDING HANDS
xPOLICE OFFICERoWOMAN WITH BUNNY EARSvBRIDE WITH VEILpPERSON WITH BLOND HAIRwMAN WITH GUA PI MAO
kTURBANpOLDER MANdWOMANlBABYeCONSTRUCTION WORKERtPRINCESSiJAPANESE OGREeGOBLINpGHOSTfBABY ANGEL
kEXTRATERRESTRIAL ALIENwALIEN MONSTERnIMPdSKULLfINFORMATION DESK PERSONxGUARDSMANjDANCERgLIPSTICK
iNAIL POLISHlFACE MASSAGEmHAIRCUThBARBER POLElSYRINGEhPILLeKISS MARKjLOVE LETTERlRINGeGEM STONE
jKISSeBOUQUEThCOUPLE WITH HEARTrWEDDINGhBEATING HEARTmROKEN HEARTmTWO HEARTSkSPARKLING HEART
pGROWING HEARTnHEART WITH ARROWqBLUE HEARTkGREEN HEARTlYELLOW HEARTmPURPLE HEARTmHEART WITH RIBBON
rREVOLVING HEARTSqHEART DECORATIONqDIAMOND SHAPE WITH A DOT INSIDEzgELECTRIC LIGHT BULB
tANGER SYMBOLmBOMBeSLEEPING SYMBOLpCOLLISION SYMBOLqSPLASHING SWEAT SYMBOLwDROPLETgASH SYMBOL
lPILE OF POOlFLEXED BICEPSnDIZZY SYMBOLmSPEECH BALLOONoTHOUGHT BALLOONpWHITE FLOWER
mHUNDRED POINTS SYMBOLvMONEY BAGjCURRENCY EXCHANGErHEAVY DOLLAR SIGNrCREDIT CARD
lBANKNOTE WITH YEN SIGNiDOLLAR SIGNlEURO SIGNjPOUND SIGNyMONEY WITH WINGS
qCHART WITH UPWARDS TREND AND YEN SIGNzmSEATePERSONAL COMPUTERrBRIEFCASEjMINIDISCiFLOPPY DISK
lOPTICAL DISCmDVDdFILE FOLDERlOPEN FILE FOLDERqPAGE WITH CURLjFACING UPoCALENDARiTEAR-OFF CALENDAR
rCARD INDEXjHART WITH UPWARDS TRENDnDOWNWARDS TRENDzbBAR CHARTjCLIPBOARDjPUSHPINhROUND PUSHPIN
nPAPERCLIPjSTRAIGHT RULERoTRIANGULAR RULERqBOOKMARK TABSnLEDGERgNOTEBOOKa WITH DECORATIVE COVER
zfCLOSED BOOKlOPEN BOOKjGREEN BOOKkBLUE BOOKjORANGE BOOKlBOOKSfNAME BADGEkSCROLLgMEMO
eTELEPHONE RECEIVERsPAGERfFAX MACHINElSATELLITE ANTENNArPUBLIC ADDRESS LOUDSPEAKER
zbCHEERING MEGAPHONEsOUTBOX TRAYlINBOX TRAYkPACKAGEhE-MAIL SYMBOLnINCOMING ENVELOPE
rENVELOPE WITH DOWNWARDS ARROW ABOVEzkCLOSED MAILBOX WITH LOWERED FLAGmRAISED FLAG
zgOPEN MAILBOX WITH RAISED FLAGlLOWERED FLAGzfPOSTBOXdAL HORNlNEWSPAPERjMOBILE PHONE
a WITH RIGHTWARDS ARROW AT LEFTzrVIBRATION MODEoMOBILE PHONE OFFqNO MOBILE PHONES
qANTENNA WITH BARSrCAMERAa WITH FLASHrVIDEO CAMERAmTELEVISIONkRADIOfVIDEOCASSETTEnFILM PROJECTOR
oPORTABLE STEREOoRAYER BEADSmTWISTED RIGHTWARDS ARROWS
zaCLOCKWISE RIGHTWARDS AND LEFTWARDS OPEN CIRCLE ARROWSa WITH CIRCLED ONE OVERLAY
zzsDOWNWARDS AND UPWARDS OPEN CIRCLE ARROWS
zzaANTICLOCKWISE DOWNWARDS AND UPWARDS OPEN CIRCLE ARROWSzzeLOW BRIGHTNESS SYMBOL
vHIGH BRIGHTNESS SYMBOLwSPEAKER WITH CANCELLATION STROKEza@128264a WITH ONE SOUND WAVE
oTHREE SOUND WAVESzfBATTERYhELECTRIC PLUGnLEFT-POINTING MAGNIFYING GLASS
zfRIGHT-POINTING MAGNIFYING GLASSzgLOCK WITH INK PENrCLOSED LOCK WITH KEYuKEYdLOCKeOPEN LOCKjBELL
a WITH CANCELLATION STROKEzdOOKMARKiLINK SYMBOLlRADIO BUTTONmBACK WITH LEFTWARDS ARROW ABOVE
zgEND WITH LEFTWARDS ARROW ABOVEzfON WITH EXCLAMATION MARK WITH LEFT RIGHT ARROW ABOVE
zzcSOON WITH RIGHTWARDS ARROW ABOVEzhTOP WITH UPWARDS ARROW ABOVEzdNO ONE UNDER EIGHTEEN SYMBOL
zdKEYCAP TENkINPUT SYMBOL FOR LATIN CAPITAL LETTERSpSMALL LETTERStNUMBERShSYMBOLShLATIN LETTERS
zfFIREeELECTRIC TORCHoWRENCHgHAMMERgNUT AND BOLTmHOCHOfPISTOLgMICROSCOPEkTELESCOPEjCRYSTAL BALL
mSIX POINTED STAR WITH MIDDLE DOTzhJAPANESE SYMBOL FOR BEGINNERzdTRIDENT EMBLEM
oBLACK SQUARE BUTTONtWHITE SQUARE BUTTONtLARGE RED CIRCLEkBLUE CIRCLElORANGE DIAMONDoBLUE DIAMOND
sSMALL ORANGE DIAMONDoBLUE DIAMONDsUP-POINTING RED TRIANGLEyDOWN-POINTING RED TRIANGLE
zbUP-POINTING SMALL RED TRIANGLEzfDOWN-POINTING SMALL RED TRIANGLE
zhLOWER RIGHT SHADOWED WHITE CIRCLEziUPPER RIGHT SHADOWED WHITE CIRCLEziCIRCLED CROSS POMMEE
tROSS POMMEE WITH HALF-CIRCLE BELOWx@128322mNOTCHED LEFT SEMICIRCLE WITH THREE DOTS
zgRIGHT SEMICIRCLE WITH THREE DOTSzpSYMBOL FOR MARKS CHAPTERyWHITE LATIN CROSSrHEAVY LATIN CROSS
rCELTIC CROSSmOM SYMBOLjDOVE OF PEACEnKAABAfMOSQUEgSYNAGOGUEjMENORAH WITH NINE BRANCHES
zbBOWL OF HYGIEIApCLOCK FACE ONE OCLOCKkTWO OCLOCKjHREE OCLOCKmFOUR OCLOCKkIVE OCLOCKlSIX OCLOCK
jEVEN OCLOCKmEIGHT OCLOCKmNINE OCLOCKlTEN OCLOCKkELEVEN OCLOCKnTWELVE OCLOCKnONE-THIRTYkTWO-THIRTY
jHREE-THIRTYmFOUR-THIRTYkIVE-THIRTYlSIX-THIRTYjEVEN-THIRTYmEIGHT-THIRTYmNINE-THIRTYlTEN-THIRTY
kELEVEN-THIRTYnTWELVE-THIRTYyRIGHT SPEAKERa WITH ONE SOUND WAVEoTHREE SOUND WAVESzlBULLHORN
a WITH SOUND WAVESzaRINGING BELLmBOOKeCANDLEgMANTELPIECE CLOCKrBLACK SKULL AND CROSSBONES
zbNO PIRACYjHOLEeMAN IN BUSINESS SUIT LEVITATINGzgSLEUTH OR SPYnDARK SUNGLASSESpSPIDERa WEB
kJOYSTICKiMAN DANCINGlLEFT HAND TELEPHONE RECEIVERzdTELEPHONE RECEIVER WITH PAGE
zdRIGHT HAND TELEPHONE RECEIVERzeWHITE TOUCHTONE TELEPHONEzaBLACK TOUCHTONE TELEPHONE
zaTELEPHONE ON TOP OF MODEMzaCLAMSHELL MOBILE PHONEwBACK OF ENVELOPEqSTAMPED ENVELOPE
qENVELOPE WITH LIGHTNINGxFLYING ENVELOPEpPEN OVER STAMPED ENVELOPEzaLINKED PAPERCLIPS
rBLACK PUSHPINnLOWER LEFT PENCILgBALLPOINT PENnFOUNTAIN PENmPAINTBRUSHkCRAYONqEFT WRITING HAND
rTURNED OK HAND SIGNtRAISED HAND WITH FINGERS SPLAYEDzgEVERSED RAISED HAND WITH FINGERS SPLAYED
zhTHUMBS UP SIGNhDOWN SIGNqVICTORY HANDmHAND WITH MIDDLE FINGER EXTENDED
zpAISED HAND WITH PART BETWEEN MIDDLE AND RING FINGERSzzdWHITE DOWN POINTING LEFT HAND INDEX
zkSIDEWAYS WHITE LEFT POINTING INDEXtRIGHT POINTING INDEXzbBLACK LEFT POINTING INDEX
tRIGHT POINTING INDEXzkBLACK LEFT POINTING BACKHAND INDEXzdRIGHT POINTING BACKHAND INDEX
zkSIDEWAYS WHITE UP POINTING INDEXrDOWN POINTING INDEXzaBLACK UP POINTING INDEX
rDOWN POINTING INDEXzjBLACK UP POINTING BACKHAND INDEXzbDOWN POINTING BACKHAND INDEXzdHEART
lDESKTOP COMPUTERqKEYBOARD AND MOUSEsTHREE NETWORKED COMPUTERSzaPRINTERgOCKET CALCULATOR
rBLACK HARD SHELL FLOPPY DISKzdWHITE HARD SHELL FLOPPY DISKzdSOFT SHELL FLOPPY DISKwTAPE CARTRIDGE
oWIRED KEYBOARDoONE BUTTON MOUSEqTWO BUTTON MOUSEpHREE BUTTON MOUSErRACKBALLjOLD PERSONAL COMPUTER
vHARD DISKjSCREENgPRINTER ICONmFAX ICONiOPTICAL DISC ICONrDOCUMENT WITH TEXTa AND PICTUREqPICTURE
vFRAME WITH PICTUREhTILESfAN XpBLACK FOLDERmFOLDERgOPEN FOLDERlCARD INDEX DIVIDERSoFILE BOX
nFILE CABINETmEMPTY NOTEa PAGEcDoNOTEa PAGEcDiEMPTY DOCUMENTiPAGEaSlDOCUMENTiPAGEaSfWASTEBASKET
lSPIRAL NOTE PADiCALENDAR PADtDESKTOP WINDOWoMINIMIZEhAXIMIZEiOVERLAP
hCLOCKWISE RIGHT AND LEFT SEMICIRCLE ARROWSzqANCELLATION XoINCREASE FONT SIZE SYMBOL
zaDECREASE FONT SIZE SYMBOLzaCOMPRESSIONlOLD KEYhROLLED-UP NEWSPAPERtPAGE WITH CIRCLED TEXT
wSTOCK CHARTlDAGGER KNIFEmLIPSeSPEAKING HEAD IN SILHOUETTEzcTHREE RAYS ABOVEfBELOWfLEFTeRIGHT
qLEFT SPEECH BUBBLEsRIGHT SPEECH BUBBLEtTWO SPEECH BUBBLESrHREE SPEECH BUBBLESuLEFT THOUGHT BUBBLE
tRIGHT THOUGHT BUBBLEuLEFT ANGER BUBBLErRIGHT ANGER BUBBLEsMOOD BUBBLElLIGHTNING MOOD BUBBLE
h@128498oBALLOT BOX WITH BALLOTpSCRIPT XiBOX WITH SCRIPT XpLD SCRIPT XlX WITH BOLD SCRIPT X
zeLIGHT CHECK MARKqBALLOT BOX WITH BOLD CHECKzbWORLD MAPjMOUNT FUJIkTOKYO TOWERlSTATUE OF LIBERTY
qILHOUETTE OF JAPANtMOYAIfGRINNING FACEa WITH SMILING EYESzgFACE WITH TEARS OF JOY
wSMILING FACE WITH OPEN MOUTHa AND SMILING EYESmCOLD SWEATkTIGHTLY-CLOSED EYESzjHALOdORNS
xWINKING FACEmSMILING FACE WITH SMILING EYESzfFACE SAVOURING DELICIOUS FOODzeRELIEVED FACE
nSMILING FACE WITH HEART-SHAPED EYESrSUNGLASSESzaRKING FACEnNEUTRAL FACEmEXPRESSIONLESS FACE
tUNAMUSED FACEnFACE WITH COLD SWEATuPENSIVE FACEmCONFUSED FACEjOUNDED FACEpKISSING FACE
mFACE THROWING A KISSuKISSING FACE WITH SMILING EYESmCLOSED EYESzeFACE WITH STUCK-OUT TONGUE
a AND WINKING EYElTIGHTLY-CLOSED EYESzzaDISAPPOINTED FACErWORRIED FACEmANGRY FACEkPOUTING FACE
mCRYING FACElPERSEVERING FACEqFACE WITH LOOK OF TRIUMPHzaDISAPPOINTED BUT RELIEVED FACE
zfFROWNING FACE WITH OPEN MOUTHzeANGUISHED FACEoFEARFUL FACEmWEARY FACEkSLEEPY FACElTIRED FACE
kGRIMACING FACEoLOUDLY CRYING FACEsFACE WITH OPEN MOUTHuHUSHED FACE
lFACE WITH OPEN MOUTH AND COLD SWEATzfSCREAMING IN FEARwASTONISHED FACEpFLUSHED FACEmSLEEPING FACE
nDIZZY FACEkFACE WITHOUT MOUTHj MEDICAL MASKwGRINNING CAT FACE WITH SMILING EYES
zkCAT FACE WITH TEARS OF JOYzbSMILING CAT FACE WITH OPEN MOUTHkHEART-SHAPED EYES
zoCAT FACE WITH WRY SMILExKISSING CAT FACE WITH CLOSED EYESziPOUTING CAT FACEqCRYING CAT FACE
pWEARY CAT FACEoSLIGHTLY FROWNING FACEnSMILING FACEvUPSIDE-DOWN FACEqFACE WITH ROLLING EYES
mNO GOOD GESTUREpOK GESTUREuPERSON BOWING DEEPLYuSEE-NO-EVIL MONKEYsHEAR-NO-EVIL MONKEY
tSPEAK-NO-EVIL MONKEYuHAPPY PERSON RAISING ONE HANDzePERSON RAISING BOTH HANDS IN CELEBRATION
ziFROWNINGiWITH POUTING FACEmFOLDED HANDSyNORTH WEST POINTING LEAFySOUTH WEST POINTING LEAF
yNORTH EAST POINTING LEAFySOUTH EAST POINTING LEAFyTURNED NORTH WEST POINTING LEAF
ySOUTH WEST POINTING LEAFyNORTH EAST POINTING LEAFySOUTH EAST POINTING LEAF
zgNORTH WEST POINTING VINE LEAFzeSOUTH WEST POINTING VINE LEAFzeNORTH EAST POINTING VINE LEAF
zeSOUTH EAST POINTING VINE LEAFzeHEAVY NORTH WEST POINTING VINE LEAF
zeSOUTH WEST POINTING VINE LEAFzeNORTH EAST POINTING VINE LEAFzeSOUTH EAST POINTING VINE LEAF
zkNORTH WEST POINTING BUDxSOUTH WEST POINTING BUDxNORTH EAST POINTING BUDxSOUTH EAST POINTING BUD
xHEAVY NORTH WEST POINTING BUDxSOUTH WEST POINTING BUDxNORTH EAST POINTING BUD
xSOUTH EAST POINTING BUDzdOLLOW QUILT SQUARE ORNAMENTa IN BLACK SQUARE
ztSOLID QUILT SQUARE ORNAMENTa IN BLACK SQUAREzsLEFTWARDS ROCKETqUPWARDS ROCKEToRIGHTWARDS ROCKET
rDOWNWARDS ROCKETqSCRIPT LIGATURE ET ORNAMENTzcHEAVY SCRIPT LIGATURE ET ORNAMENT
ziLIGATURE OPEN ET ORNAMENTzaHEAVY LIGATURE OPEN ET ORNAMENTzaAMPERSAND ORNAMENT
ySWASH AMPERSAND ORNAMENTxANS-SERIF HEAVY DOUBLE TURNED COMMA QUOTATION MARK ORNAMENT
zlCOMMA QUOTATION MARK ORNAMENTzlLOW DOUBLE COMMA QUOTATION MARK ORNAMENT
zzhHEAVY INTERROBANG ORNAMENTzbSANS-SERIF INTERROBANG ORNAMENT
zgHEAVY SANS-SERIF INTERROBANG ORNAMENTzmVERY HEAVY SOLIDUShREVERSE SOLIDUSzbCHECKER BOARD
nREVERSE CHECKER BOARDuOCKETgHELICOPTERkSTEAM LOCOMOTIVEqRAILWAY CARlHIGH-SPEED TRAIN
a WITH BULLET NOSEziTRAINfMETROfLIGHT RAILkSTATIONhTRAMa CARiBUSdONCOMING BUSmTROLLEYBUSkBUS STOP
iMINIBUShAMBULANCEjFIRE ENGINElPOLICE CARkONCOMING POLICE CARtTAXIeONCOMING TAXInAUTOMOBILE
kONCOMING AUTOMOBILEtRECREATIONAL VEHICLEuDELIVERY TRUCKoARTICULATED LORRYrTRACTORhMONORAIL
gUNTAIN RAILWAYqSUSPENSION RAILWAYsMOUNTAIN CABLEWAYrAERIAL TRAMWAYoSHIPeROWBOAThSPEEDBOAT
jHORIZONTAL TRAFFIC LIGHTyVERTICAL TRAFFIC LIGHTwCONSTRUCTION SIGNrPOLICE CARS REVOLVING LIGHT
zcTRIANGULAR FLAG ON POSTxDOOReNO ENTRY SIGNnSMOKING SYMBOLoNO SMOKING SYMBOL
rPUT LITTER IN ITS PLACE SYMBOLzfDO NOT LITTER SYMBOLuPOTABLE WATER SYMBOL
uNON-POTABLE WATER SYMBOLyBICYCLEhNO BICYCLESlBICYCLISTjMOUNTAIN BICYCLISTsPEDESTRIAN
kNO PEDESTRIANSoCHILDREN CROSSINGrMENS SYMBOLlWOMENS SYMBOLnRESTROOMiBABY SYMBOLlTOILET
gWATER CLOSETmSHOWERgBATHaTUBhPASSPORT CONTROLqCUSTOMShBAGGAGE CLAIMnLEFT LUGGAGE
mTRIANGLE WITH ROUNDED CORNERSzePROHIBITED SIGNpCIRCLED INFORMATION SOURCEzbBOYS SYMBOL
lGIRLS SYMBOLmCOUCH AND LAMPoSLEEPING ACCOMMODATIONvHOPPING BAGSnBELLHOP BELLkDdPLACE OF WORSHIP
qOCTAGONAL SIGNoSHOPPING TROLLEYpTUPAfPAGODAgHINDU TEMPLElUTdELEVATORiPLAYGROUND SLIDE@128733
qWHEELfRING BUOYjHAMMER AND WRENCHrSHIELDgOIL DRUMiMOTORWAYiRAILWAY TRACKnMOTOR BOAT
kUP-POINTING MILITARY AIRPLANErAIRPLANEiSMALL AIRPLANEzbSMALL AIRPLANEoNORTHEAST-POINTING AIRPLANE
zcAIRPLANE DEPARTUREjARRIVINGrSATELLITE@128752jONCOMING FIRE ENGINEuDIESEL LOCOMOTIVE
rPASSENGER SHIPoSCOOTERhMOTOR SCOOTERnCANOEfSLEDeFLYING SAUCERnSKATEBOARDkAUTO RICKSHAW
nPICKUP TRUCKmROLLER SKATEmALCHEMICAL SYMBOL FOR QUINTESSENCE@128768mAIRdFIREeEARTHfWATER
fAQUAFORTISg REGIAa-2hVITAEa-2mVINEGARa-2b3jSULFURgPHILOSOPHERS SULFURtBLACK SULFUR
mMERCURY SUBLIMATEa-2b3tCINNABARiSALTeNITREfVITRIOLa-2jROCK SALTa-2lGOLDeSILVERgIRON OREa-2
kCROCUS OF IRONoREGULUS OF IRONpCOPPER OREkIRON-COPPER OREpSUBLIMATE OF COPPERtCROCUS OF COPPERa-2
rOPPER ANTIMONIATEsSALT OF COPPER ANTIMONIATEzaUBLIMATE OF SALT OF COPPERzcVERDIGRISjTIN ORE
hLEAD OREiANTIMONY OREmSUBLIMATE OF ANTIMONYuALT OF ANTIMONYpUBLIMATE OF SALT OF ANTIMONY
zeVINEGAR OF ANTIMONYtREGULUS OF ANTIMONYa-2o@128818a-2b3b4jALKALIa-2iMARCASITEjSAL-AMMONIAC
mARSENIChREALGARa-2jAURIPIGMENTlBISMUTH ORElTARTARa-2iQUICK LIMEkBORAXa-2b3hALUMeOILdSPIRIT
gTINCTUREiGUMdWAXdPOWDERgCALXeTUTTYfCAPUT MORTUUMnSCEPTER OF JOVEpCADUCEUSiTRIDENThSTARRED TRIDENT
pLODESTONEjSOAPeURINEfHORSE DUNGkASHESfPOT ASHESjBRICKfPOWDERED BRICKoAMALGAM
hSTRATUM SUPER STRATUMa-2wUBLIMATIONlPRECIPITATElDISTILLeSOLVEa-2kPURIFYeTREFACTIONmCRUCIBLEa-2b3
b4b5kALEMBIChBATH OF MARYeVAPOURSpRETORTgHOUReNIGHTfDAY-NIGHTjMONTHfHALF DRAMeOUNCE
zhBLACK LEFT-POINTING ISOSCELES RIGHT TRIANGLE@128896znUP-POINTING ISOSCELES RIGHT TRIANGLE
zlRIGHT-POINTING ISOSCELES RIGHT TRIANGLEzoDOWN-POINTING ISOSCELES RIGHT TRIANGLE
znSLIGHTLY SMALL CIRCLEzcMEDIUM BOLD WHITE CIRCLEyBOLD WHITE CIRCLErHEAVY WHITE CIRCLE
sVERY HEAVY WHITE CIRCLExEXTREMELY HEAVY WHITE CIRCLEzdWHITE CIRCLE CONTAINING BLACK SMALL CIRCLE
zrROUND TARGETmBLACK TINY SQUARElSLIGHTLY SMALL SQUAREzcLIGHT WHITE SQUAREsMEDIUM WHITE SQUARE
tBOLD WHITE SQUARErHEAVY WHITE SQUAREsVERY HEAVY WHITE SQUARExEXTREMELY HEAVY WHITE SQUARE
zdWHITE SQUARE CONTAINING BLACK VERY SMALL SQUARErMEDIUM SQUAREzsSQUARE TARGETnBLACK TINY DIAMOND
mVERY SMALL DIAMONDsMEDIUM SMALL DIAMONDzbWHITE DIAMOND CONTAINING BLACK VERY SMALL DIAMOND
sMEDIUM DIAMONDzuDIAMOND TARGEToBLACK TINY LOZENGEmVERY SMALL LOZENGEsMEDIUM SMALL LOZENGE
zbWHITE LOZENGE CONTAINING BLACK SMALL LOZENGEztTHIN GREEK CROSSqLIGHT GREEK CROSS
rMEDIUM GREEK CROSSsBOLD GREEK CROSSqVERY BOLD GREEK CROSSqHEAVY GREEK CROSS
wEXTREMELY HEAVY GREEK CROSSzcTHIN SALTIREmLIGHT SALTIREnMEDIUM SALTIREoBOLD SALTIREmHEAVY SALTIRE
nVERY HEAVY SALTIREsEXTREMELY HEAVY SALTIRExLIGHT FIVE SPOKED ASTERISK
zbMEDIUM FIVE SPOKED ASTERISKzcBOLD FIVE SPOKED ASTERISKzaHEAVY FIVE SPOKED ASTERISK
zbVERY HEAVY FIVE SPOKED ASTERISKzgEXTREMELY HEAVY FIVE SPOKED ASTERISKzlLIGHT SIX SPOKED ASTERISK
zaMEDIUM SIX SPOKED ASTERISKzbBOLD SIX SPOKED ASTERISKyHEAVY SIX SPOKED ASTERISK
zaVERY HEAVY SIX SPOKED ASTERISKzfEXTREMELY HEAVY SIX SPOKED ASTERISKzkLIGHT EIGHT SPOKED ASTERISK
zcMEDIUM EIGHT SPOKED ASTERISKzdBOLD EIGHT SPOKED ASTERISKzbHEAVY EIGHT SPOKED ASTERISK
zcVERY HEAVY EIGHT SPOKED ASTERISKzhLIGHT THREE POINTED BLACK STAR
zfMEDIUM THREE POINTED BLACK STARzgTHREE POINTED BLACK STARyMEDIUM THREE POINTED PINWHEEL STAR
zjLIGHT FOUR POINTED BLACK STARzeMEDIUM FOUR POINTED BLACK STARzfFOUR POINTED BLACK STAR
xMEDIUM FOUR POINTED PINWHEEL STARziREVERSE LIGHT FOUR POINTED PINWHEEL STAR
zpLIGHT FIVE POINTED BLACK STARzeHEAVY FIVE POINTED BLACK STARzeMEDIUM SIX POINTED BLACK STAR
zeHEAVY SIX POINTED BLACK STARzdSIX POINTED PINWHEEL STARzaMEDIUM EIGHT POINTED BLACK STAR
zgHEAVY EIGHT POINTED BLACK STARzfVERY HEAVY EIGHT POINTED BLACK STAR
zkHEAVY EIGHT POINTED PINWHEEL STARziLIGHT TWELVE POINTED BLACK STAR
zgHEAVY TWELVE POINTED BLACK STARkPINWHEEL STARzjCIRCLED TRIANGLEqNEGATIVE CIRCLED TRIANGLE
zaCIRCLED SQUAREoNEGATIVE CIRCLED SQUARExLARGE ORANGE CIRCLE@128992nYELLOW CIRCLEnGREEN CIRCLE
mPURPLE CIRCLEnBROWN CIRCLEmRED SQUAREkBLUE SQUARElORANGE SQUAREnYELLOW SQUAREnGREEN SQUARE
mPURPLE SQUAREnBROWN SQUAREsHEAVY EQUALS SIGN@129008
rLEFTWARDS ARROW WITH SMALL TRIANGLE ARROWHEAD@129024zuUPWARDS ARROW WITH SMALL TRIANGLE ARROWHEAD
zsRIGHTWARDS ARROW WITH SMALL TRIANGLE ARROWHEADzvDOWNWARDS ARROW WITH SMALL TRIANGLE ARROWHEAD
zuLEFTWARDS ARROW WITH MEDIUM TRIANGLE ARROWHEADzvUPWARDS ARROW WITH MEDIUM TRIANGLE ARROWHEAD
ztRIGHTWARDS ARROW WITH MEDIUM TRIANGLE ARROWHEADzwDOWNWARDS ARROW WITH MEDIUM TRIANGLE ARROWHEAD
zvLEFTWARDS ARROW WITH LARGE TRIANGLE ARROWHEADzuUPWARDS ARROW WITH LARGE TRIANGLE ARROWHEAD
zsRIGHTWARDS ARROW WITH LARGE TRIANGLE ARROWHEADzvDOWNWARDS ARROW WITH LARGE TRIANGLE ARROWHEAD
zuLEFTWARDS ARROW WITH SMALL EQUILATERAL ARROWHEAD@129040
zxUPWARDS ARROW WITH SMALL EQUILATERAL ARROWHEAD
zvRIGHTWARDS ARROW WITH SMALL EQUILATERAL ARROWHEAD
zyDOWNWARDS ARROW WITH SMALL EQUILATERAL ARROWHEADzxLEFTWARDS ARROW WITH EQUILATERAL ARROWHEAD
zrUPWARDS ARROW WITH EQUILATERAL ARROWHEADzpRIGHTWARDS ARROW WITH EQUILATERAL ARROWHEAD
zsDOWNWARDS ARROW WITH EQUILATERAL ARROWHEADzrHEAVY LEFTWARDS ARROW WITH EQUILATERAL ARROWHEAD
zrUPWARDS ARROW WITH EQUILATERAL ARROWHEADzpRIGHTWARDS ARROW WITH EQUILATERAL ARROWHEAD
zsDOWNWARDS ARROW WITH EQUILATERAL ARROWHEADzrLEFTWARDS ARROW WITH LARGE EQUILATERAL ARROWHEAD
zxUPWARDS ARROW WITH LARGE EQUILATERAL ARROWHEAD
zvRIGHTWARDS ARROW WITH LARGE EQUILATERAL ARROWHEAD
zyDOWNWARDS ARROW WITH LARGE EQUILATERAL ARROWHEAD
zzeLEFTWARDS TRIANGLE-HEADED ARROW WITH NARROW SHAFT
zyUPWARDS TRIANGLE-HEADED ARROW WITH NARROW SHAFT
zwRIGHTWARDS TRIANGLE-HEADED ARROW WITH NARROW SHAFT
zzaDOWNWARDS TRIANGLE-HEADED ARROW WITH NARROW SHAFT
zyLEFTWARDS TRIANGLE-HEADED ARROW WITH MEDIUM SHAFT
zyUPWARDS TRIANGLE-HEADED ARROW WITH MEDIUM SHAFT
zwRIGHTWARDS TRIANGLE-HEADED ARROW WITH MEDIUM SHAFT
zzaDOWNWARDS TRIANGLE-HEADED ARROW WITH MEDIUM SHAFT
zyLEFTWARDS TRIANGLE-HEADED ARROW WITH BOLD SHAFTzwUPWARDS TRIANGLE-HEADED ARROW WITH BOLD SHAFT
zuRIGHTWARDS TRIANGLE-HEADED ARROW WITH BOLD SHAFT
zxDOWNWARDS TRIANGLE-HEADED ARROW WITH BOLD SHAFT
zwLEFTWARDS TRIANGLE-HEADED ARROW WITH HEAVY SHAFTzxUPWARDS TRIANGLE-HEADED ARROW WITH HEAVY SHAFT
zvRIGHTWARDS TRIANGLE-HEADED ARROW WITH HEAVY SHAFT
zyDOWNWARDS TRIANGLE-HEADED ARROW WITH HEAVY SHAFT
zxLEFTWARDS TRIANGLE-HEADED ARROW WITH VERY HEAVY SHAFT
zzdUPWARDS TRIANGLE-HEADED ARROW WITH VERY HEAVY SHAFT
zzbRIGHTWARDS TRIANGLE-HEADED ARROW WITH VERY HEAVY SHAFT
zzeDOWNWARDS TRIANGLE-HEADED ARROW WITH VERY HEAVY SHAFTzzdLEFTWARDS FINGER-POST ARROW
zcUPWARDS FINGER-POST ARROWzaRIGHTWARDS FINGER-POST ARROWzdDOWNWARDS FINGER-POST ARROW
zcLEFTWARDS SQUARED ARROWxUPWARDS SQUARED ARROWvRIGHTWARDS SQUARED ARROWyDOWNWARDS SQUARED ARROW
xLEFTWARDS COMPRESSED ARROWzbUPWARDS COMPRESSED ARROWyRIGHTWARDS COMPRESSED ARROW
zcDOWNWARDS COMPRESSED ARROWzbLEFTWARDS HEAVY COMPRESSED ARROWzhUPWARDS HEAVY COMPRESSED ARROW
zfRIGHTWARDS HEAVY COMPRESSED ARROWziDOWNWARDS HEAVY COMPRESSED ARROWzhLEFTWARDS HEAVY ARROW
vUPWARDS HEAVY ARROWtRIGHTWARDS HEAVY ARROWwDOWNWARDS HEAVY ARROW
vLEFTWARDS SANS-SERIF ARROW@129104zbUPWARDS SANS-SERIF ARROWyRIGHTWARDS SANS-SERIF ARROW
zcDOWNWARDS SANS-SERIF ARROWzbNORTH WEST SANS-SERIF ARROWvEAST SANS-SERIF ARROW
zcSOUTH EAST SANS-SERIF ARROWvWEST SANS-SERIF ARROWzcLEFT RIGHT SANS-SERIF ARROW
zcUP DOWN SANS-SERIF ARROWyWIDE-HEADED LEFTWARDS LIGHT BARB ARROW@129120zbUPWARDS LIGHT BARB ARROW
yRIGHTWARDS LIGHT BARB ARROWzcDOWNWARDS LIGHT BARB ARROWzbNORTH WEST LIGHT BARB ARROW
vEAST LIGHT BARB ARROWzcSOUTH EAST LIGHT BARB ARROWvWEST LIGHT BARB ARROWzcLEFTWARDS BARB ARROW
uUPWARDS BARB ARROWsRIGHTWARDS BARB ARROWvDOWNWARDS BARB ARROWuNORTH WEST BARB ARROW
pEAST BARB ARROWvSOUTH EAST BARB ARROWpWEST BARB ARROWvLEFTWARDS MEDIUM BARB ARROW
zcUPWARDS MEDIUM BARB ARROWzaRIGHTWARDS MEDIUM BARB ARROWzdDOWNWARDS MEDIUM BARB ARROW
zcNORTH WEST MEDIUM BARB ARROWwEAST MEDIUM BARB ARROWzdSOUTH EAST MEDIUM BARB ARROW
wWEST MEDIUM BARB ARROWzdLEFTWARDS HEAVY BARB ARROWzbUPWARDS HEAVY BARB ARROW
yRIGHTWARDS HEAVY BARB ARROWzcDOWNWARDS HEAVY BARB ARROWzbNORTH WEST HEAVY BARB ARROW
vEAST HEAVY BARB ARROWzcSOUTH EAST HEAVY BARB ARROWvWEST HEAVY BARB ARROW
zcLEFTWARDS VERY HEAVY BARB ARROWzgUPWARDS VERY HEAVY BARB ARROWzeRIGHTWARDS VERY HEAVY BARB ARROW
zhDOWNWARDS VERY HEAVY BARB ARROWzgNORTH WEST VERY HEAVY BARB ARROWzbEAST VERY HEAVY BARB ARROW
zhSOUTH EAST VERY HEAVY BARB ARROWzbWEST VERY HEAVY BARB ARROW
ztLEFTWARDS TRIANGLE ARROWHEAD@129168zdUPWARDS TRIANGLE ARROWHEADzbRIGHTWARDS TRIANGLE ARROWHEAD
zeDOWNWARDS TRIANGLE ARROWHEADzdLEFTWARDS WHITE ARROW WITHIN TRIANGLE ARROWHEAD
zwUPWARDS WHITE ARROW WITHIN TRIANGLE ARROWHEADzuRIGHTWARDS WHITE ARROW WITHIN TRIANGLE ARROWHEAD
zxDOWNWARDS WHITE ARROW WITHIN TRIANGLE ARROWHEADzwLEFTWARDS ARROW WITH NOTCHED TAIL
ziUPWARDS ARROW WITH NOTCHED TAILzgRIGHTWARDS ARROW WITH NOTCHED TAIL
zjDOWNWARDS ARROW WITH NOTCHED TAILziHEAVY ARROW SHAFT WIDTH ONEdTWO THIRDSkONE HALFeTHIRD
ziLEFTWARDS BOTTOM-SHADED WHITE ARROWzkRIGHTWARDS BOTTOM SHADED WHITE ARROW
zlLEFTWARDS TOP SHADED WHITE ARROWzhRIGHTWARDS TOP SHADED WHITE ARROW
ziLEFTWARDS LEFT-SHADED WHITE ARROWziRIGHTWARDS RIGHT-SHADED WHITE ARROW
zkLEFTWARDS RIGHT-SHADED WHITE ARROWzjRIGHTWARDS LEFT-SHADED WHITE ARROW
zjLEFTWARDS BACK-TILTED SHADOWED WHITE ARROWzrRIGHTWARDS BACK-TILTED SHADOWED WHITE ARROW
zsLEFTWARDS FRONT-TILTED SHADOWED WHITE ARROWzsRIGHTWARDS FRONT-TILTED SHADOWED WHITE ARROW
ztWHITE ARROW SHAFT WIDTH ONEdTWO THIRDSzjARROW POINTING UPWARDS THEN NORTH WEST@129200
xRIGHTWARDS THEN CURVING SOUTH WESTzyCIRCLED CROSS FORMEE WITH FOUR DOTS@129280jTWO DOTSo@129282
uLEFT HALF CIRCLE WITH FOUR DOTSjTHREE DOTSjWO DOTSiDOTj@129287qDOWNWARD FACING HOOKeNOTCHED HOOK
mHOOK WITH DOTnNOTCHED HOOK WITH DOTzmPINCHED FINGERSpWHITE HEARTlBROWN HEARTlPINCHING HAND
nZIPPER-MOUTH FACErMONEY-MOUTH FACEqFACE WITH THERMOMETERvNERD FACEjTHINKING FACE
nFACE WITH HEAD-BANDAGEwROBOT FACEkHUGGING FACEmSIGN OF THE HORNSrCALL ME HANDmRAISED BACK OF HAND
tLEFT-FACING FISTqRIGHT-FACING FISTrHANDSHAKEf WITH INDEX AND MIDDLE FINGERS CROSSED
zrI LOVE YOU HAND SIGNuFACE WITH COWBOY HATuCLOWN FACEkNAUSEATED FACE
oROLLING ON THE FLOOR LAUGHINGzeDROOLING FACEnLYING FACEkFACE PALMjSNEEZING FACE
nFACE WITH ONE EYEBROW RAISEDzdGRINNING FACE WITH STAR EYESjONE LARGE AND ONE SMALL EYE
zvFACE WITH FINGER COVERING CLOSED LIPSzmSERIOUS FACE WITH SYMBOLS COVERING MOUTH
zoMILING FACE WITH SMILING EYES AND HAND COVERING MOUTHzzeFACE WITH OPEN MOUTH VOMITING
zeSHOCKED FACE WITH EXPLODING HEADzhPREGNANT WOMANoBREAST-FEEDINGoPALMS UP TOGETHERrSELFIEgPRINCE
gMAN IN TUXEDOmOTHER CHRISTMASqSHRUGfPERSON DOING CARTWHEELwJUGGLINGiFENCERgMODERN PENTATHLON
rWRESTLERSiATER POLOkHANDBALLiDIVING MASKlWILTED FLOWERnDRUM WITH DRUMSTICKSuCLINKING GLASSES
qTUMBLER GLASSnSPOONfGOAL NETiRIFLEfFIRST PLACE MEDALrSECOND PLACE MEDALsTHIRD PLACE MEDAL
rBOXING GLOVEmMARTIAL ARTS UNIFORMuCURLING STONEnLACROSSE STICK AND BALLxSOFTBALLiFLYING DISC
lCROISSANTjAVOCADOhCUCUMBERiBACONfPOTATOgCARROTgBAGUETTE BREADoGREEN SALADlSHALLOW PAN OF FOOD
sTUFFED FLATBREADrEGGdGLASS OF MILKnPEANUTShKIWIFRUITjPANCAKESiDUMPLINGiFORTUNE COOKIEoTAKEOUT BOX
lCHOPSTICKSkBOWL WITH SPOONpCUP WITH STRAWnOCONUThBROCCOLIiPIEcRETZELhCUT OF MEATlSANDWICH
iCANNED FOODlLEAFY GREENlMANGOeOON CAKEjBAGELfSMILING FACE WITH SMILING EYES AND THREE HEARTS
zwYAWNING FACEmSMILING FACE WITH TEARwFACE WITH PARTY HORN AND PARTY HAT
yUNEVEN EYES AND WAVY MOUTHzlOVERHEATED FACEpFREEZING FACEnNINJAfDISGUISED FACE
oFACE HOLDING BACK TEARSsWITH PLEADING EYESxSARIeLAB COATiGOGGLEShHIKING BOOTlFLAT SHOEjCRAB
eLION FACEjSCORPIONiTURKEYgUNICORN FACEmEAGLEfDUCKeBATdSHARKfOWLdFOX FACEiBUTTERFLYjDEEReGORILLA
hLIZARDgRHINOCEROSkSHRIMPfQUIDfGIRAFFE FACEmZEBRA FACEkHEDGEHOGiSAUROPODiT-REXfCRICKEThKANGAROO
iLLAMAfPEACOCKhHIPPOPOTAMUSmPARROTgRACCOONhLOBSTERhMOSQUITOhICROBEhBADGERgSWANeMAMMOTHhDODOeSLOTH
fOTTEReRANGUTANjSKUNKfFLAMINGOiOYSTERgBEAVERfISONfSEALeGUIDE DOGjPROBING CANE
mEMOJI COMPONENT RED HAIRiCURLY HAIRkBALDeWHITE HAIRzbBONEeLEGdFOOTeTOOTHfSUPERHEROeVILLAIN
lAFETY VESTlEAR WITH HEARING AIDuMOTORIZED WHEELCHAIRtANUAL WHEELCHAIRqECHANICAL ARMdLEG
oCHEESE WEDGElUPCAKEhSALT SHAKERlBEVERAGE BOXmGARLICgONIONfFALAFELhWAFFLEgBUTTERgMATE DRINK
kICE CUBEiBUBBLE TEAkTROLLfSTANDING PERSONpKNEELING PERSONpDEAF PERSONlFACE WITH MONOCLErADULT
fCHILDfOLDER ADULTlBEARDED PERSONoPERSON WITH HEADSCARFoIN STEAMY ROOMoCLIMBINGiIN LOTUS POSITION
yMAGEeFAIRYfVAMPIREhMERPERSONjELFdGENIEfZOMBIEgBRAINfORANGE HEARTmBILLED CAPkSCARFfGLOVESgCOAT
eSOCKSfRED GIFT ENVELOPErFIRECRACKERlJIGSAW PUZZLE PIECEtTEST TUBEjPETRI DISHkDNA DOUBLE HELIX
qCOMPASShABACUSgFIRE EXTINGUISHERrTOOLBOXhBRICKfMAGNETgLUGGAGEgOTION BOTTLEnSPOOL OF THREAD
pBALL OF YARNmSAFETY PINkTEDDY BEARkBROOMeASKETgROLL OF PAPERnBAR OF SOAPlSPONGEgRECEIPT
hNAZAR AMULETlEUTRAL CHESS KINGeQUEENfROOKeBISHOPgKNIGHTgPAWN
sWHITE CHESS KNIGHT ROTATED FORTY-FIVE DEGREESzuBLACK CHESS KNIGHT ROTATED FORTY-FIVE DEGREES
zuNEUTRAL CHESS KNIGHT ROTATED FORTY-FIVE DEGREESzwWHITE CHESS KING ROTATED NINETY DEGREES
zcQUEEN ROTATED NINETY DEGREESzdROOK ROTATED NINETY DEGREESzcBISHOP ROTATED NINETY DEGREES
zeKNIGHT ROTATED NINETY DEGREESzePAWN ROTATED NINETY DEGREES
zoBLACK CHESS KING ROTATED NINETY DEGREESzcQUEEN ROTATED NINETY DEGREES
zdROOK ROTATED NINETY DEGREESzcBISHOP ROTATED NINETY DEGREESzeKNIGHT ROTATED NINETY DEGREES
zePAWN ROTATED NINETY DEGREESzoNEUTRAL CHESS KING ROTATED NINETY DEGREES
zcQUEEN ROTATED NINETY DEGREESzdROOK ROTATED NINETY DEGREESzcBISHOP ROTATED NINETY DEGREES
zeKNIGHT ROTATED NINETY DEGREESzePAWN ROTATED NINETY DEGREES
zqWHITE CHESS KNIGHT ROTATED ONE HUNDRED THIRTY-FIVE DEGREES
zziBLACK CHESS KNIGHT ROTATED ONE HUNDRED THIRTY-FIVE DEGREES
zziNEUTRAL CHESS KNIGHT ROTATED ONE HUNDRED THIRTY-FIVE DEGREESzzkWHITE CHESS TURNED KINGeQUEEN
fROOKeBISHOPgKNIGHTgPAWNxBLACK CHESS TURNED KINGeQUEENfROOKeBISHOPgKNIGHTgPAWN
xNEUTRAL CHESS TURNED KINGeQUEENfROOKeBISHOPgKNIGHTgPAWN
zaWHITE CHESS KNIGHT ROTATED TWO HUNDRED TWENTY-FIVE DEGREES
zziBLACK CHESS KNIGHT ROTATED TWO HUNDRED TWENTY-FIVE DEGREES
zziNEUTRAL CHESS KNIGHT ROTATED TWO HUNDRED TWENTY-FIVE DEGREES
zzkWHITE CHESS KING ROTATED TWO HUNDRED SEVENTY DEGREESzpQUEEN ROTATED TWO HUNDRED SEVENTY DEGREES
zqROOK ROTATED TWO HUNDRED SEVENTY DEGREESzpBISHOP ROTATED TWO HUNDRED SEVENTY DEGREES
zrKNIGHT ROTATED TWO HUNDRED SEVENTY DEGREESzrPAWN ROTATED TWO HUNDRED SEVENTY DEGREES
zzcBLACK CHESS KING ROTATED TWO HUNDRED SEVENTY DEGREESzpQUEEN ROTATED TWO HUNDRED SEVENTY DEGREES
zqROOK ROTATED TWO HUNDRED SEVENTY DEGREESzpBISHOP ROTATED TWO HUNDRED SEVENTY DEGREES
zrKNIGHT ROTATED TWO HUNDRED SEVENTY DEGREESzrPAWN ROTATED TWO HUNDRED SEVENTY DEGREES
zzcNEUTRAL CHESS KING ROTATED TWO HUNDRED SEVENTY DEGREES
zpQUEEN ROTATED TWO HUNDRED SEVENTY DEGREESzqROOK ROTATED TWO HUNDRED SEVENTY DEGREES
zpBISHOP ROTATED TWO HUNDRED SEVENTY DEGREESzrKNIGHT ROTATED TWO HUNDRED SEVENTY DEGREES
zrPAWN ROTATED TWO HUNDRED SEVENTY DEGREES
zzeWHITE CHESS KNIGHT ROTATED THREE HUNDRED FIFTEEN DEGREES
zzgBLACK CHESS KNIGHT ROTATED THREE HUNDRED FIFTEEN DEGREES
zzgNEUTRAL CHESS KNIGHT ROTATED THREE HUNDRED FIFTEEN DEGREESzziWHITE CHESS EQUIHOPPER
wBLACK CHESS EQUIHOPPERwNEUTRAL CHESS EQUIHOPPERyWHITE CHESS EQUIHOPPER ROTATED NINETY DEGREES
zuBLACK CHESS EQUIHOPPER ROTATED NINETY DEGREESzuNEUTRAL CHESS EQUIHOPPER ROTATED NINETY DEGREES
zwWHITE CHESS KNIGHT-QUEENfROOKeBISHOPzaBLACK CHESS KNIGHT-QUEENfROOKeBISHOP
zaXIANGQI RED GENERAL@129632hMANDARINiELEPHANTiHORSEfCHARIOTgANNONgSOLDIERlBLACK GENERALhMANDARIN
iELEPHANTiHORSEfCHARIOTgANNONgSOLDIERvBALLET SHOES@129648mONE-PIECE SWIMSUITsBRIEFSgSHORTS
gTHONG SANDALmDROP OF BLOOD@129656nADHESIVE BANDAGEqSTETHOSCOPElX-RAYfCRUTCHgYO-YO@129664fKITE
ePARACHUTEjBOOMERANGjMAGIC WANDkPINATAgNESTING DOLLSnRINGED PLANET@129680nCHAIRfRAZORfAXE
dDIYA LAMPjBANJOfMILITARY HELMETpACCORDIONjLONG DRUMjCOINdARPENTRY SAWnSCREWDRIVERlLADDERgHOOK
eMIRRORgWINDOWgPLUNGERhSEWING NEEDLEnKNOTeBUCKETgMOUSE TRAPkTOOTHBRUSHkHEADSTONEjPLACARDhROCK
eMIRROR BALLlIDENTIFICATION CARDtLOW BATTERYlHAMSAfFLY@129712dWORMeBEETLEgCOCKROACHjPOTTED PLANT
mWOODeFEATHERhLOTUSfCORALfEMPTY NESTkNEST WITH EGGSoANATOMICAL HEART@129728qLUNGSfPEOPLE HUGGING
nREGNANT MANdPERSONoERSON WITH CROWNrBLUEBERRIES@129744kELL PEPPERlOLIVEfFLATBREADjTAMALEgFONDUE
gTEAPOTgPOURING LIQUIDoBEANSfJARdMELTING FACE@129760mSALUTING FACE
nFACE WITH OPEN EYES AND HAND OVER MOUTHzePEEKING EYElDIAGONAL MOUTHyDOTTED LINE FACEqBITING LIP
jUBBLEShHAND WITH INDEX FINGER AND THUMB CROSSED@129776zpRIGHTWARDS HANDpLEFTWARDS HAND
oPALM DOWN HANDjUP HANDmINDEX POINTING AT THE VIEWERzdHEART HANDSlBLOCK SEXTANT-1@129792b2b12c3b13
c23c123d4b14c24c124d34c134d234d1234e5b15c25c125d35c235d1235e45c145d245d1245e345d1345e2345e12345f6
b16c26c126d36c136d236d1236e46c146c246e346d1346e2346e12346f56c156d256d1256e356d1356e2356e12356f456
d1456e2456e12456f3456e13456f23456tLOWER LEFT BLOCK DIAGONAL LOWER MIDDLE LEFT TO LOWER CENTRE
gRIGHTzhUPPER MIDDLE LEFT TO LOWER CENTREgRIGHTzbLEFT TO LOWER CENTRE
zvRIGHT BLOCK DIAGONAL UPPER MIDDLE LEFT TO UPPER CENTREgRIGHTzhLOWER MIDDLE LEFT TO UPPER CENTRE
gRIGHTzbLEFT TO UPPER CENTREuMIDDLE LEFT TO UPPER MIDDLE RIGHTziCENTRE TO LOWER MIDDLE RIGHT
zdLEFT TO LOWER MIDDLE RIGHTzbCENTRE TO UPPER MIDDLE RIGHTzdLEFT TO UPPER MIDDLE RIGHT
zbCENTRE TO UPPER RIGHTzxLEFT BLOCK DIAGONAL UPPER CENTRE TO UPPER MIDDLE RIGHT
zdLEFT TO UPPER MIDDLE RIGHTzbCENTRE TO LOWER MIDDLE RIGHTzdLEFT TO LOWER MIDDLE RIGHT
zbCENTRE TO LOWER RIGHTvMIDDLE LEFT TO LOWER MIDDLE RIGHT
zzpUPPER RIGHT BLOCK DIAGONAL LOWER MIDDLE LEFT TO LOWER CENTREgRIGHT
zhUPPER MIDDLE LEFT TO LOWER CENTREgRIGHTzbLEFT TO LOWER CENTRE
zwLEFT BLOCK DIAGONAL UPPER MIDDLE LEFT TO UPPER CENTREgRIGHTzhLOWER MIDDLE LEFT TO UPPER CENTRE
gRIGHTzbLEFT TO UPPER CENTREuMIDDLE LEFT TO UPPER MIDDLE RIGHTziCENTRE TO LOWER MIDDLE RIGHT
zdLEFT TO LOWER MIDDLE RIGHTzbCENTRE TO UPPER MIDDLE RIGHTzdLEFT TO UPPER MIDDLE RIGHT
zbCENTRE TO UPPER RIGHTzwRIGHT BLOCK DIAGONAL UPPER CENTRE TO UPPER MIDDLE RIGHT
zdLEFT TO UPPER MIDDLE RIGHTzbCENTRE TO LOWER MIDDLE RIGHTzdLEFT TO LOWER MIDDLE RIGHT
zbCENTRE TO LOWER RIGHTvMIDDLE LEFT TO LOWER MIDDLE RIGHT
zzkAND RIGHT AND LOWER TRIANGULAR THREE QUARTERS BLOCK
zzhLEFT AND LOWER AND RIGHT TRIANGULAR THREE QUARTERS BLOCK
zzgUPPER AND LEFT AND LOWER TRIANGULAR THREE QUARTERS BLOCK
zzgLEFT AND UPPER AND RIGHT TRIANGULAR THREE QUARTERS BLOCKzzbTRIANGULAR ONE QUARTER BLOCK
ziUPPER TRIANGULAR ONE QUARTER BLOCKzjRIGHT TRIANGULAR ONE QUARTER BLOCK
zjLOWER TRIANGULAR ONE QUARTER BLOCKzjVERTICAL ONE EIGHTH BLOCK-2b3b4b5b6b7
zcHORIZONTAL ONE EIGHTH BLOCK-2b3b4b5b6b7zeLEFT AND LOWER ONE EIGHTH BLOCKwUPPER ONE EIGHTH BLOCK
zgRIGHT AND UPPER ONE EIGHTH BLOCKwLOWER ONE EIGHTH BLOCKzhUPPER AND LOWER ONE EIGHTH BLOCK
zhHORIZONTAL ONE EIGHTH BLOCK-1358zhUPPER ONE QUARTER BLOCKrTHREE EIGHTHS BLOCKtFIVE EIGHTHS BLOCK
sTHREE QUARTERS BLOCKuSEVEN EIGHTHS BLOCKzaRIGHT ONE QUARTER BLOCKrTHREE EIGHTHS BLOCK
tFIVE EIGHTHS BLOCKsTHREE QUARTERS BLOCKuSEVEN EIGHTHS BLOCKzaLEFT HALF MEDIUM SHADE
wRIGHT HALF MEDIUM SHADExUPPER HALF MEDIUM SHADExLOWER HALF MEDIUM SHADExINVERSE MEDIUM SHADE
uUPPER HALF BLOCK AND LOWER HALF INVERSE MEDIUM SHADEzqINVERSE MEDIUM SHADE AND LOWER HALF BLOCK
zzcLEFT HALF INVERSE MEDIUM SHADE AND RIGHT HALF BLOCK@129940zzbCHECKER BOARD FILL
sINVERSE CHECKER BOARD FILLzbHEAVY HORIZONTAL FILLvUPPER LEFT TO LOWER RIGHT FILL
yRIGHT TO LOWER LEFT FILLyAND LOWER TRIANGULAR HALF BLOCKzmLEFT AND RIGHT TRIANGULAR HALF BLOCK
zlUPPER LEFT TRIANGULAR MEDIUM SHADEzdRIGHT TRIANGULAR MEDIUM SHADE
zkLOWER RIGHT TRIANGULAR MEDIUM SHADEzeLEFT TRIANGULAR MEDIUM SHADE
zjBOX DRAWINGS LIGHT DIAGONAL UPPER CENTRE TO MIDDLE LEFTeRIGHTzdMIDDLE LEFT TO LOWER CENTRE
uRIGHT TO LOWER CENTREzdUPPER CENTRE TO MIDDLE LEFT TO LOWER CENTREuRIGHT TO LOWER CENTRE
ztMIDDLE LEFT TO LOWER CENTRE TO MIDDLE RIGHTzdUPPER CENTRE TO MIDDLE RIGHT
zsUPPER CENTRE TO MIDDLE LEFT AND MIDDLE RIGHT TO LOWER CENTRE
zmRIGHT AND MIDDLE LEFT TO LOWER CENTREzgTO LOWER CENTRE TO MIDDLE LEFT
zlLEFT TO LOWER CENTRE TO MIDDLE RIGHT
zzjMIDDLE LEFT TO UPPER CENTRE TO MIDDLE RIGHT TO LOWER CENTRE
zzcRIGHT TO UPPER CENTRE TO MIDDLE LEFT TO LOWER CENTREzzjDIAMONDqHORIZONTAL WITH VERTICAL STROKE
zzaARROWHEAD-SHAPED POINTERyINVERSE CHECK MARKsLEFT HALF RUNNING MANvRIGHT HALF RUNNING MAN
wINVERSE DOWNWARDS ARROW WITH TIP LEFTWARDSzrLEFTWARDS ARROW AND UPPER AND LOWER ONE EIGHTH BLOCK
zzcRIGHTWARDS ARROW AND UPPER AND LOWER ONE EIGHTH BLOCK
zzdDOWNWARDS ARROW AND RIGHT ONE EIGHTH BLOCKzrUPWARDS ARROW AND RIGHT ONE EIGHTH BLOCK
zpLEFT HALF FOLDERqRIGHT HALF FOLDERrVOIDED GREEK CROSSsRIGHT OPEN SQUARED DOT
wNEGATIVE DIAGONAL CROSSfMIDDLE RIGHT TO LOWER CENTREzdDIAMOND
zaWHITE HEAVY SALTIRE WITH ROUNDED CORNERSzpLEFT THIRD WHITE RIGHT POINTING INDEX
zmMIDDLE THIRD WHITE RIGHT POINTING INDEXzoRIGHT THIRD WHITE RIGHT POINTING INDEX
znNEGATIVE SQUARED QUESTION MARKzfSTICK FIGUREa WITH ARMS RAISEDqLEANING LEFTeRIGHTnWITH DRESS
xWHITE UP-POINTING CHEVRONzaSEGMENTED DIGIT ZERO@130032eONEdTWOcHREEfFOURdIVEeSIXcEVENfEIGHTfNINE
uCJK COMPATIBILITY IDEOGRAPH-2F800@194560b1b2b3b4b5b6b7b8b9bAbBbCbDbEbFc10b1b2b3b4b5b6b7b8b9bAbBbC
bDbEbFc20b1b2b3b4b5b6b7b8b9bAbBbCbDbEbFc30b1b2b3b4b5b6b7b8b9bAbBbCbDbEbFc40b1b2b3b4b5b6b7b8b9bAbB
bCbDbEbFc50b1b2b3b4b5b6b7b8b9bAbBbCbDbEbFc60b1b2b3b4b5b6b7b8b9bAbBbCbDbEbFc70b1b2b3b4b5b6b7b8b9bA
bBbCbDbEbFc80b1b2b3b4b5b6b7b8b9bAbBbCbDbEbFc90b1b2b3b4b5b6b7b8b9bAbBbCbDbEbFcA0b1b2b3b4b5b6b7b8b9
bAbBbCbDbEbFcB0b1b2b3b4b5b6b7b8b9bAbBbCbDbEbFcC0b1b2b3b4b5b6b7b8b9bAbBbCbDbEbFcD0b1b2b3b4b5b6b7b8
b9bAbBbCbDbEbFcE0b1b2b3b4b5b6b7b8b9bAbBbCbDbEbFcF0b1b2b3b4b5b6b7b8b9bAbBbCbDbEbFd900b1b2b3b4b5b6b7
b8b9bAbBbCbDbEbFc10b1b2b3b4b5b6b7b8b9bAbBbCbDbEbFc20b1b2b3b4b5b6b7b8b9bAbBbCbDbEbFc30b1b2b3b4b5b6
b7b8b9bAbBbCbDbEbFc40b1b2b3b4b5b6b7b8b9bAbBbCbDbEbFc50b1b2b3b4b5b6b7b8b9bAbBbCbDbEbFc60b1b2b3b4b5
b6b7b8b9bAbBbCbDbEbFc70b1b2b3b4b5b6b7b8b9bAbBbCbDbEbFc80b1b2b3b4b5b6b7b8b9bAbBbCbDbEbFc90b1b2b3b4
b5b6b7b8b9bAbBbCbDbEbFcA0b1b2b3b4b5b6b7b8b9bAbBbCbDbEbFcB0b1b2b3b4b5b6b7b8b9bAbBbCbDbEbFcC0b1b2b3
b4b5b6b7b8b9bAbBbCbDbEbFcD0b1b2b3b4b5b6b7b8b9bAbBbCbDbEbFcE0b1b2b3b4b5b6b7b8b9bAbBbCbDbEbFcF0b1b2
b3b4b5b6b7b8b9bAbBbCbDbEbFdA00b1b2b3b4b5b6b7b8b9bAbBbCbDbEbFc10b1b2b3b4b5b6b7b8b9bAbBbCbD
ziLANGUAGE TAG@917505mTAG SPACE@917536fEXCLAMATION MARKqQUOTATION MARKoNUMBER SIGNlDOLLAR SIGN
lPERCENT SIGNmAMPERSANDiPOSTROPHEkLEFT PARENTHESISqRIGHT PARENTHESISrASTERISKiPLUS SIGNjCOMMA
fHYPHEN-MINUSmFULL STOPjSOLIDUShDIGIT ZEROeONEdTWOcHREEfFOURdIVEeSIXcEVENfEIGHTfNINEkCOLON
fSEMICOLONjLESS-THAN SIGNoEQUALS SIGNlGREATER-THAN SIGNrQUESTION MARKnCOMMERCIAL AT
nLATIN CAPITAL LETTER AbBbCbDbEbFbGbHbIbJbKbLbMbNbObPbQbRbSbTbUbVbWbXbYbZvEFT SQUARE BRACKET
tREVERSE SOLIDUSoIGHT SQUARE BRACKETuCIRCUMFLEX ACCENTrLOW LINEiGRAVE ACCENTmLATIN SMALL LETTER A
bBbCbDbEbFbGbHbIbJbKbLbMbNbObPbQbRbSbTbUbVbWbXbYbZtEFT CURLY BRACKETsVERTICAL LINE
nRIGHT CURLY BRACKETtTILDEjCANCEL TAGkVARIATION SELECTOR-17@917760b8b9c20b1b2b3b4b5b6b7b8b9c30b1b2
b3b4b5b6b7b8b9c40b1b2b3b4b5b6b7b8b9c50b1b2b3b4b5b6b7b8b9c60b1b2b3b4b5b6b7b8b9c70b1b2b3b4b5b6b7b8b9
c80b1b2b3b4b5b6b7b8b9c90b1b2b3b4b5b6b7b8b9c100b1b2b3b4b5b6b7b8b9c10b1b2b3b4b5b6b7b8b9c20b1b2b3b4b5
b6b7b8b9c30b1b2b3b4b5b6b7b8b9c40b1b2b3b4b5b6b7b8b9c50b1b2b3b4b5b6b7b8b9c60b1b2b3b4b5b6b7b8b9c70b1
b2b3b4b5b6b7b8b9c80b1b2b3b4b5b6b7b8b9c90b1b2b3b4b5b6b7b8b9d200b1b2b3b4b5b6b7b8b9c10b1b2b3b4b5b6b7
b8b9c20b1b2b3b4b5b6b7b8b9c30b1b2b3b4b5b6b7b8b9c40b1b2b3b4b5b6b7b8b9c50b1b2b3b4b5b6wNULL@0b@0
dSTART OF HEADINGpOH@1cTART OF TEXTlX@2dEND OF TEXTkTX@3cND OF TRANSMISSIONsOT@4cNQUIRYe@5
dACKNOWLEDGEi@6cLERTfBEL@7cACKSPACEiS@8cCHARACTER TABULATIONuHORIZONTAL TABULATION@9uT@9cTAB@9
dLINE FEEDjNEW LINE@10iEND OF LINE@10lLF@10cNL@10cEOL@10dLINE TABULATIONpVERTICAL TABULATION@11
sT@11cFORM FEEDiF@12cCARRIAGE RETURNoR@13cSHIFT OUTjLOCKING-SHIFT ONE@14rSO@14bHIFT IN
iLOCKING-SHIFT ZERO@15sSI@15cDATA LINK ESCAPEpLE@16cEVICE CONTROL ONErC1@17cEVICE CONTROL TWO
rC2@18cEVICE CONTROL THREEtC3@19cEVICE CONTROL FOURsC4@20dNEGATIVE ACKNOWLEDGEtAK@21
dSYNCHRONOUS IDLEn@22dEND OF TRANSMISSION BLOCKyTB@23dCANCELd@24dEND OF MEDIUMmOM@25dSUBSTITUTE
h@26dESCAPEd@27dINFORMATION SEPARATOR FOURzbFILE SEPARATOR@28nS@28cINFORMATION SEPARATOR THREE
zcGROUP SEPARATOR@29oS@29cINFORMATION SEPARATOR TWOzaRECORD SEPARATOR@30pS@30
cINFORMATION SEPARATOR ONEzaUNIT SEPARATOR@31nS@31cSPcDELETE@127d@127dPADDING CHARACTERo@128
dHIGH OCTET PRESETqOP@129dBREAK PERMITTED HEREtPH@130dNO BREAK HEREmBH@131dINDEXc@132dNEXT LINE
hL@133dSTART OF SELECTED AREAvSA@134dEND OF SELECTED AREAtSA@135dCHARACTER TABULATION SET
yHORIZONTAL TABULATION SET@136yTS@136dCHARACTER TABULATION WITH JUSTIFICATION
zoHORIZONTAL TABULATION WITH JUSTIFICATION@137zoTJ@137dLINE TABULATION SET
tVERTICAL TABULATION SET@138wTS@138dPARTIAL LINE FORWARDhDOWN@139qLD@139cARTIAL LINE BACKWARD
iUP@140oLU@140dREVERSE LINE FEEDjINDEX@141mI@141cSINGLE SHIFT TWOk-SHIFT-2@142nS2@142
cINGLE SHIFT THREEm-SHIFT-3@143nS3@143dDEVICE CONTROL STRINGuCS@144dPRIVATE USE ONEe-1@145mU1@145
cRIVATE USE TWOe-2@146mU2@146dSET TRANSMIT STATErTS@147dCANCEL CHARACTERpCH@148dMESSAGE WAITING
oW@149cSTART OF GUARDED AREAmPROTECTED AREA@150wPA@150dEND OF GUARDED AREAmPROTECTED AREA@151
uPA@151dSTART OF STRINGoOS@152cINGLE GRAPHIC CHARACTER INTRODUCERzjGC@153
cINGLE CHARACTER INTRODUCERzbCI@154dCONTROL SEQUENCE INTRODUCERzbSI@155dSTRING TERMINATORp@156
cOPERATING SYSTEM COMMANDxSC@157dPRIVACY MESSAGEoM@158cAPPLICATION PROGRAM COMMANDzaC@159dNBSP
eSHY@173dLATIN CAPITAL LETTER GHA@418sSMALL LETTER GHAwCGJ@847dALM@1564
dSYRIAC SUBLINEAR COLON SKEWED LEFT@1801zjKANNADA LETTER LLLA@3294tLAO LETTER FO FON@3741cAY@3743
gRO@3747cLO@3749nTIBETAN MARK BKA- SHOG GI MGO RGYAN@4048zkHANGUL JONGSEONG YESIEUNG-KIYEOK@4588
gSSANGKIYEOKuSSANGYESIEUNGnYESIEUNG-KHIEUKHziFVS1@6155b2b3eMVSdFVS4eZWSP@8203cNJcJdLRMdRLM
dLRE@8234dRLEdPDFdLROdRLOdNNBSPfMMSP@8287eWJcLRI@8294dRLIdFSIdPDI
dWEIERSTRASS ELLIPTIC FUNCTION@8472zeMICR ON US SYMBOL@9288mDASH SYMBOL
qLEFTWARDS TRIANGLE-HEADED ARROW WITH DOUBLE VERTICAL STROKE@11130
zzjRIGHTWARDS TRIANGLE-HEADED ARROW WITH DOUBLE VERTICAL STROKE@11132
zzkYI SYLLABLE ITERATION MARK@40981zbMYANMAR LETTER KHAMTI LLA@43630zaVS1@65024b2b3b4b5b6b7b8b9b10
b1b2b3b4b5b6ePRESENTATION FORM FOR VERTICAL RIGHT WHITE LENTICULAR BRACKET@65048
zzlBYTE ORDER MARK@65279oOM@65279dZWNBSP@65279gCUNEIFORM SIGN NU11 TENU@74452
eOVER NU11 BUR OVER BURzrMEDEFAIDRIN CAPITAL LETTER H@93782bNGrSMALL LETTER H@93814bNG
zcHENTAIGANA LETTER E-1@110593vBYZANTINE MUSICAL SYMBOL FTHORA SKLIRON CHROMA VASIS@118981
zzcVS17@917760b8b9c20b1b2b3b4b5b6b7b8b9c30b1b2b3b4b5b6b7b8b9c40b1b2b3b4b5b6b7b8b9c50b1b2b3b4b5b6b7
b8b9c60b1b2b3b4b5b6b7b8b9c70b1b2b3b4b5b6b7b8b9c80b1b2b3b4b5b6b7b8b9c90b1b2b3b4b5b6b7b8b9c100b1b2b3
b4b5b6b7b8b9c10b1b2b3b4b5b6b7b8b9c20b1b2b3b4b5b6b7b8b9c30b1b2b3b4b5b6b7b8b9c40b1b2b3b4b5b6b7b8b9
c50b1b2b3b4b5b6b7b8b9c60b1b2b3b4b5b6b7b8b9c70b1b2b3b4b5b6b7b8b9c80b1b2b3b4b5b6b7b8b9c90b1b2b3b4b5
b6b7b8b9d200b1b2b3b4b5b6b7b8b9c10b1b2b3b4b5b6b7b8b9c20b1b2b3b4b5b6b7b8b9c30b1b2b3b4b5b6b7b8b9c40b1
b2b3b4b5b6b7b8b9c50b1b2b3b4b5b6"

end SourceAtlas.Text
