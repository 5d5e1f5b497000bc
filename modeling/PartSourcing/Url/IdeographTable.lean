import PartSourcing.Text.CaseTable

/-!
# Spellings of ideographs

What ideographs, radicals and the signs made of them are spelled as in a domain name: variants
give way to the unified character, and squared words and numbers to what they stand for. The
tables are data only; `Url.Domain` reads them.
-/

namespace PartSourcing.Url.IdeographTable

open PartSourcing.Text.CaseTable

/-- Radicals, letters and signs that are spelled as one other character. -/
def rows : List Row := [
    ⟨0x2E9F, 0x2E9F, 1, 15662⟩, ⟨0x2EF3, 0x2EF3, 1, 28844⟩, ⟨0x2F00, 0x2F00, 1, 7936⟩,
    ⟨0x2F01, 0x2F01, 1, 7975⟩, ⟨0x2F02, 0x2F02, 1, 7988⟩, ⟨0x2F03, 0x2F03, 1, 7996⟩,
    ⟨0x2F04, 0x2F04, 1, 8021⟩, ⟨0x2F05, 0x2F05, 1, 8064⟩, ⟨0x2F06, 0x2F06, 1, 8070⟩,
    ⟨0x2F07, 0x2F07, 1, 8089⟩, ⟨0x2F08, 0x2F08, 1, 8114⟩, ⟨0x2F09, 0x2F09, 1, 8758⟩,
    ⟨0x2F0A, 0x2F0A, 1, 8795⟩, ⟨0x2F0B, 0x2F0B, 1, 8800⟩, ⟨0x2F0C, 0x2F0C, 1, 8822⟩,
    ⟨0x2F0D, 0x2F0D, 1, 8841⟩, ⟨0x2F0E, 0x2F0E, 1, 8861⟩, ⟨0x2F0F, 0x2F0F, 1, 8913⟩,
    ⟨0x2F10, 0x2F10, 1, 8933⟩, ⟨0x2F11, 0x2F11, 1, 8943⟩, ⟨0x2F12, 0x2F12, 1, 9097⟩,
    ⟨0x2F13, 0x2F13, 1, 9190⟩, ⟨0x2F14, 0x2F14, 1, 9217⟩, ⟨0x2F15, 0x2F15, 1, 9221⟩,
    ⟨0x2F16, 0x2F16, 1, 9250⟩, ⟨0x2F17, 0x2F17, 1, 9258⟩, ⟨0x2F18, 0x2F18, 1, 9284⟩,
    ⟨0x2F19, 0x2F19, 1, 9296⟩, ⟨0x2F1A, 0x2F1A, 1, 9320⟩, ⟨0x2F1B, 0x2F1B, 1, 9371⟩,
    ⟨0x2F1C, 0x2F1C, 1, 9388⟩, ⟨0x2F1D, 0x2F1D, 1, 9414⟩, ⟨0x2F1E, 0x2F1E, 1, 10169⟩,
    ⟨0x2F1F, 0x2F1F, 1, 10240⟩, ⟨0x2F20, 0x2F20, 1, 10699⟩, ⟨0x2F21, 0x2F21, 1, 10721⟩,
    ⟨0x2F22, 0x2F22, 1, 10728⟩, ⟨0x2F23, 0x2F23, 1, 10738⟩, ⟨0x2F24, 0x2F24, 1, 10755⟩,
    ⟨0x2F25, 0x2F25, 1, 10830⟩, ⟨0x2F26, 0x2F26, 1, 11306⟩, ⟨0x2F27, 0x2F27, 1, 11353⟩,
    ⟨0x2F28, 0x2F28, 1, 11472⟩, ⟨0x2F29, 0x2F29, 1, 11494⟩, ⟨0x2F2A, 0x2F2A, 1, 11512⟩,
    ⟨0x2F2B, 0x2F2B, 1, 11533⟩, ⟨0x2F2C, 0x2F2C, 1, 11586⟩, ⟨0x2F2D, 0x2F2D, 1, 11588⟩,
    ⟨0x2F2E, 0x2F2E, 1, 11949⟩, ⟨0x2F2F, 0x2F2F, 1, 11958⟩, ⟨0x2F30, 0x2F30, 1, 11969⟩,
    ⟨0x2F31, 0x2F31, 1, 11981⟩, ⟨0x2F32, 0x2F32, 1, 12096⟩, ⟨0x2F33, 0x2F33, 1, 12103⟩,
    ⟨0x2F34, 0x2F34, 1, 12107⟩, ⟨0x2F35, 0x2F35, 1, 12223⟩, ⟨0x2F36, 0x2F36, 1, 12232⟩,
    ⟨0x2F37, 0x2F37, 1, 12244⟩, ⟨0x2F38, 0x2F38, 1, 12251⟩, ⟨0x2F39, 0x2F39, 1, 12311⟩,
    ⟨0x2F3A, 0x2F3A, 1, 12327⟩, ⟨0x2F3B, 0x2F3B, 1, 12344⟩, ⟨0x2F3C, 0x2F3C, 1, 12423⟩,
    ⟨0x2F3D, 0x2F3D, 1, 13003⟩, ⟨0x2F3E, 0x2F3E, 1, 13048⟩, ⟨0x2F3F, 0x2F3F, 1, 13068⟩,
    ⟨0x2F40, 0x2F40, 1, 13807⟩, ⟨0x2F41, 0x2F41, 1, 13811⟩, ⟨0x2F42, 0x2F42, 1, 13893⟩,
    ⟨0x2F43, 0x2F43, 1, 13908⟩, ⟨0x2F44, 0x2F44, 1, 13920⟩, ⟨0x2F45, 0x2F45, 1, 13940⟩,
    ⟨0x2F46, 0x2F46, 1, 13978⟩, ⟨0x2F47, 0x2F47, 1, 13982⟩, ⟨0x2F48, 0x2F48, 1, 14248⟩,
    ⟨0x2F49, 0x2F49, 1, 14271⟩, ⟨0x2F4A, 0x2F4A, 1, 14302⟩, ⟨0x2F4B, 0x2F4B, 1, 15317⟩,
    ⟨0x2F4C, 0x2F4C, 1, 15382⟩, ⟨0x2F4D, 0x2F4D, 1, 15404⟩, ⟨0x2F4E, 0x2F4E, 1, 15461⟩,
    ⟨0x2F4F, 0x2F4F, 1, 15484⟩, ⟨0x2F50, 0x2F50, 1, 15492⟩, ⟨0x2F51, 0x2F51, 1, 15498⟩,
    ⟨0x2F52, 0x2F52, 1, 15549⟩, ⟨0x2F53, 0x2F53, 1, 15553⟩, ⟨0x2F54, 0x2F54, 1, 15584⟩,
    ⟨0x2F55, 0x2F55, 1, 16662⟩, ⟨0x2F56, 0x2F56, 1, 17108⟩, ⟨0x2F57, 0x2F57, 1, 17119⟩,
    ⟨0x2F58, 0x2F58, 1, 17123⟩, ⟨0x2F59, 0x2F59, 1, 17126⟩, ⟨0x2F5A, 0x2F5A, 1, 17133⟩,
    ⟨0x2F5B, 0x2F5B, 1, 17150⟩, ⟨0x2F5C, 0x2F5C, 1, 17151⟩, ⟨0x2F5D, 0x2F5D, 1, 17231⟩,
    ⟨0x2F5E, 0x2F5E, 1, 17446⟩, ⟨0x2F5F, 0x2F5F, 1, 17450⟩, ⟨0x2F60, 0x2F60, 1, 17788⟩,
    ⟨0x2F61, 0x2F61, 1, 17797⟩, ⟨0x2F62, 0x2F62, 1, 17846⟩, ⟨0x2F63, 0x2F63, 1, 17852⟩,
    ⟨0x2F64, 0x2F64, 1, 17860⟩, ⟨0x2F65, 0x2F65, 1, 17867⟩, ⟨0x2F66, 0x2F66, 1, 17957⟩,
    ⟨0x2F67, 0x2F67, 1, 17963⟩, ⟨0x2F68, 0x2F68, 1, 18190⟩, ⟨0x2F69, 0x2F69, 1, 18196⟩,
    ⟨0x2F6A, 0x2F6A, 1, 18244⟩, ⟨0x2F6B, 0x2F6B, 1, 18260⟩, ⟨0x2F6C, 0x2F6C, 1, 18306⟩,
    ⟨0x2F6D, 0x2F6D, 1, 18542⟩, ⟨0x2F6E, 0x2F6E, 1, 18548⟩, ⟨0x2F6F, 0x2F6F, 1, 18564⟩,
    ⟨0x2F70, 0x2F70, 1, 18890⟩, ⟨0x2F71, 0x2F71, 1, 19015⟩, ⟨0x2F72, 0x2F72, 1, 19020⟩,
    ⟨0x2F73, 0x2F73, 1, 19201⟩, ⟨0x2F74, 0x2F74, 1, 19287⟩, ⟨0x2F75, 0x2F75, 1, 19332⟩,
    ⟨0x2F76, 0x2F76, 1, 19709⟩, ⟨0x2F77, 0x2F77, 1, 19841⟩, ⟨0x2F78, 0x2F78, 1, 20414⟩,
    ⟨0x2F79, 0x2F79, 1, 20440⟩, ⟨0x2F7A, 0x2F7A, 1, 20496⟩, ⟨0x2F7B, 0x2F7B, 1, 20546⟩,
    ⟨0x2F7C, 0x2F7C, 1, 20613⟩, ⟨0x2F7D, 0x2F7D, 1, 20623⟩, ⟨0x2F7E, 0x2F7E, 1, 20628⟩,
    ⟨0x2F7F, 0x2F7F, 1, 20660⟩, ⟨0x2F80, 0x2F80, 1, 20735⟩, ⟨0x2F81, 0x2F81, 1, 20744⟩,
    ⟨0x2F82, 0x2F82, 1, 21089⟩, ⟨0x2F83, 0x2F83, 1, 21095⟩, ⟨0x2F84, 0x2F84, 1, 21103⟩,
    ⟨0x2F85, 0x2F85, 1, 21111⟩, ⟨0x2F86, 0x2F86, 1, 21126⟩, ⟨0x2F87, 0x2F87, 1, 21140⟩,
    ⟨0x2F88, 0x2F88, 1, 21143⟩, ⟨0x2F89, 0x2F89, 1, 21221⟩, ⟨0x2F8A, 0x2F8A, 1, 21224⟩,
    ⟨0x2F8B, 0x2F8B, 1, 21229⟩, ⟨0x2F8C, 0x2F8C, 1, 22209⟩, ⟨0x2F8D, 0x2F8D, 1, 22238⟩,
    ⟨0x2F8E, 0x2F8E, 1, 22706⟩, ⟨0x2F8F, 0x2F8F, 1, 22717⟩, ⟨0x2F90, 0x2F90, 1, 22739⟩,
    ⟨0x2F91, 0x2F91, 1, 23021⟩, ⟨0x2F92, 0x2F92, 1, 23033⟩, ⟨0x2F93, 0x2F93, 1, 23103⟩,
    ⟨0x2F94, 0x2F94, 1, 23148⟩, ⟨0x2F95, 0x2F95, 1, 23714⟩, ⟨0x2F96, 0x2F96, 1, 23728⟩,
    ⟨0x2F97, 0x2F97, 1, 23742⟩, ⟨0x2F98, 0x2F98, 1, 23776⟩, ⟨0x2F99, 0x2F99, 1, 23812⟩,
    ⟨0x2F9A, 0x2F9A, 1, 24010⟩, ⟨0x2F9B, 0x2F9B, 1, 24021⟩, ⟨0x2F9C, 0x2F9C, 1, 24087⟩,
    ⟨0x2F9D, 0x2F9D, 1, 24334⟩, ⟨0x2F9E, 0x2F9E, 1, 24364⟩, ⟨0x2F9F, 0x2F9F, 1, 24572⟩,
    ⟨0x2FA0, 0x2FA0, 1, 24592⟩, ⟨0x2FA1, 0x2FA1, 1, 24596⟩, ⟨0x2FA2, 0x2FA2, 1, 24815⟩,
    ⟨0x2FA3, 0x2FA3, 1, 24998⟩, ⟨0x2FA4, 0x2FA4, 1, 25122⟩, ⟨0x2FA5, 0x2FA5, 1, 25127⟩,
    ⟨0x2FA6, 0x2FA6, 1, 25131⟩, ⟨0x2FA7, 0x2FA7, 1, 26064⟩, ⟨0x2FA8, 0x2FA8, 1, 26072⟩,
    ⟨0x2FA9, 0x2FA9, 1, 26227⟩, ⟨0x2FAA, 0x2FAA, 1, 26380⟩, ⟨0x2FAB, 0x2FAB, 1, 26382⟩,
    ⟨0x2FAC, 0x2FAC, 1, 26428⟩, ⟨0x2FAD, 0x2FAD, 1, 26532⟩, ⟨0x2FAE, 0x2FAE, 1, 26544⟩,
    ⟨0x2FAF, 0x2FAF, 1, 26547⟩, ⟨0x2FB0, 0x2FB0, 1, 26553⟩, ⟨0x2FB1, 0x2FB1, 1, 26650⟩,
    ⟨0x2FB2, 0x2FB2, 1, 26683⟩, ⟨0x2FB3, 0x2FB3, 1, 26688⟩, ⟨0x2FB4, 0x2FB4, 1, 26701⟩,
    ⟨0x2FB5, 0x2FB5, 1, 26867⟩, ⟨0x2FB6, 0x2FB6, 1, 26917⟩, ⟨0x2FB7, 0x2FB7, 1, 26920⟩,
    ⟨0x2FB8, 0x2FB8, 1, 27102⟩, ⟨0x2FB9, 0x2FB9, 1, 27104⟩, ⟨0x2FBA, 0x2FBA, 1, 27122⟩,
    ⟨0x2FBB, 0x2FBB, 1, 27373⟩, ⟨0x2FBC, 0x2FBC, 1, 27420⟩, ⟨0x2FBD, 0x2FBD, 1, 27426⟩,
    ⟨0x2FBE, 0x2FBE, 1, 27495⟩, ⟨0x2FBF, 0x2FBF, 1, 27504⟩, ⟨0x2FC0, 0x2FC0, 1, 27506⟩,
    ⟨0x2FC1, 0x2FC1, 1, 27515⟩, ⟨0x2FC2, 0x2FC2, 1, 27544⟩, ⟨0x2FC3, 0x2FC3, 1, 27938⟩,
    ⟨0x2FC4, 0x2FC4, 1, 28337⟩, ⟨0x2FC5, 0x2FC5, 1, 28346⟩, ⟨0x2FC6, 0x2FC6, 1, 28383⟩,
    ⟨0x2FC7, 0x2FC7, 1, 28404⟩, ⟨0x2FC8, 0x2FC8, 1, 28411⟩, ⟨0x2FC9, 0x2FC9, 1, 28420⟩,
    ⟨0x2FCA, 0x2FCA, 1, 28423⟩, ⟨0x2FCB, 0x2FCB, 1, 28462⟩, ⟨0x2FCC, 0x2FCC, 1, 28465⟩,
    ⟨0x2FCD, 0x2FCD, 1, 28481⟩, ⟨0x2FCE, 0x2FCE, 1, 28485⟩, ⟨0x2FCF, 0x2FCF, 1, 28497⟩,
    ⟨0x2FD0, 0x2FD0, 1, 28523⟩, ⟨0x2FD1, 0x2FD1, 1, 28537⟩, ⟨0x2FD2, 0x2FD2, 1, 28544⟩,
    ⟨0x2FD3, 0x2FD3, 1, 28602⟩, ⟨0x2FD4, 0x2FD4, 1, 28616⟩, ⟨0x2FD5, 0x2FD5, 1, 28619⟩,
    ⟨0x3000, 0x3000, 1, -12256⟩, ⟨0x3002, 0x3002, 1, -12244⟩, ⟨0x3036, 0x3036, 1, -36⟩,
    ⟨0x3038, 0x3038, 1, 8969⟩, ⟨0x3039, 0x303A, 1, 8971⟩, ⟨0x3131, 0x3132, 1, -8241⟩,
    ⟨0x3133, 0x3135, 2, -8073⟩, ⟨0x3134, 0x3134, 1, -8242⟩, ⟨0x3136, 0x3136, 1, -8073⟩,
    ⟨0x3137, 0x3139, 1, -8244⟩, ⟨0x313A, 0x313F, 1, -8074⟩, ⟨0x3140, 0x3140, 1, -8230⟩,
    ⟨0x3141, 0x3143, 1, -8251⟩, ⟨0x3144, 0x3144, 1, -8227⟩, ⟨0x3145, 0x314E, 1, -8252⟩,
    ⟨0x314F, 0x3163, 1, -8174⟩, ⟨0x3165, 0x3166, 1, -8273⟩, ⟨0x3167, 0x3168, 1, -8096⟩,
    ⟨0x3169, 0x3169, 1, -8093⟩, ⟨0x316A, 0x316A, 1, -8092⟩, ⟨0x316B, 0x316B, 1, -8088⟩,
    ⟨0x316C, 0x316C, 1, -8085⟩, ⟨0x316D, 0x316D, 1, -8084⟩, ⟨0x316E, 0x316E, 1, -8274⟩,
    ⟨0x316F, 0x316F, 1, -8082⟩, ⟨0x3170, 0x3170, 1, -8081⟩, ⟨0x3171, 0x3172, 1, -8276⟩,
    ⟨0x3173, 0x3173, 1, -8275⟩, ⟨0x3174, 0x3175, 1, -8274⟩, ⟨0x3176, 0x3176, 1, -8271⟩,
    ⟨0x3177, 0x3177, 1, -8270⟩, ⟨0x3178, 0x317C, 1, -8269⟩, ⟨0x317D, 0x317D, 1, -8267⟩,
    ⟨0x317E, 0x317E, 1, -8264⟩, ⟨0x317F, 0x317F, 1, -8255⟩, ⟨0x3180, 0x3180, 1, -8249⟩,
    ⟨0x3181, 0x3181, 1, -8245⟩, ⟨0x3182, 0x3183, 1, -8081⟩, ⟨0x3184, 0x3186, 1, -8237⟩,
    ⟨0x3187, 0x3188, 1, -8195⟩, ⟨0x3189, 0x3189, 1, -8193⟩, ⟨0x318A, 0x318B, 1, -8185⟩,
    ⟨0x318C, 0x318C, 1, -8184⟩, ⟨0x318D, 0x318D, 1, -8175⟩, ⟨0x318E, 0x318E, 1, -8173⟩,
    ⟨0x3192, 0x3192, 1, 7278⟩, ⟨0x3193, 0x3193, 1, 7417⟩, ⟨0x3194, 0x3194, 1, 7285⟩,
    ⟨0x3195, 0x3195, 1, 9542⟩, ⟨0x3196, 0x3196, 1, 7284⟩, ⟨0x3197, 0x3197, 1, 7318⟩,
    ⟨0x3198, 0x3198, 1, 7283⟩, ⟨0x3199, 0x3199, 1, 17305⟩, ⟨0x319A, 0x319A, 1, 7359⟩,
    ⟨0x319B, 0x319B, 1, 7294⟩, ⟨0x319C, 0x319C, 1, 7269⟩, ⟨0x319D, 0x319D, 1, 10124⟩,
    ⟨0x319E, 0x319E, 1, 9618⟩, ⟨0x319F, 0x319F, 1, 7451⟩, ⟨0x3244, 0x3244, 1, 8971⟩,
    ⟨0x3245, 0x3245, 1, 11319⟩, ⟨0x3246, 0x3246, 1, 13121⟩, ⟨0x3247, 0x3247, 1, 18760⟩,
    ⟨0x3260, 0x3260, 1, -8544⟩, ⟨0x3261, 0x3262, 1, -8543⟩, ⟨0x3263, 0x3265, 1, -8542⟩,
    ⟨0x3266, 0x3266, 1, -8541⟩, ⟨0x3267, 0x3268, 1, -8540⟩, ⟨0x3269, 0x326D, 1, -8539⟩,
    ⟨0x326E, 0x326E, 1, 31122⟩, ⟨0x326F, 0x326F, 1, 32297⟩, ⟨0x3270, 0x3270, 1, 32884⟩,
    ⟨0x3271, 0x3271, 1, 34059⟩, ⟨0x3272, 0x3272, 1, 34646⟩, ⟨0x3273, 0x3273, 1, 35233⟩,
    ⟨0x3274, 0x3274, 1, 36408⟩, ⟨0x3275, 0x3275, 1, 37583⟩, ⟨0x3276, 0x3276, 1, 38170⟩,
    ⟨0x3277, 0x3277, 1, 39345⟩, ⟨0x3278, 0x3278, 1, 39932⟩, ⟨0x3279, 0x3279, 1, 40519⟩,
    ⟨0x327A, 0x327A, 1, 41106⟩, ⟨0x327B, 0x327B, 1, 41693⟩, ⟨0x327E, 0x327E, 1, 37938⟩,
    ⟨0x3280, 0x3280, 1, 7040⟩, ⟨0x3281, 0x3281, 1, 7179⟩, ⟨0x3282, 0x3282, 1, 7047⟩,
    ⟨0x3283, 0x3283, 1, 9304⟩, ⟨0x3284, 0x3284, 1, 7184⟩, ⟨0x3285, 0x3285, 1, 7912⟩,
    ⟨0x3286, 0x3286, 1, 7037⟩, ⟨0x3287, 0x3287, 1, 7908⟩, ⟨0x3288, 0x3288, 1, 7125⟩,
    ⟨0x3289, 0x3289, 1, 8376⟩, ⟨0x328A, 0x328A, 1, 13438⟩, ⟨0x328B, 0x328B, 1, 15840⟩,
    ⟨0x328C, 0x328C, 1, 14760⟩, ⟨0x328D, 0x328D, 1, 13467⟩, ⟨0x328E, 0x328E, 1, 24387⟩,
    ⟨0x328F, 0x328F, 1, 9360⟩, ⟨0x3290, 0x3290, 1, 13141⟩, ⟨0x3291, 0x3291, 1, 13721⟩,
    ⟨0x3292, 0x3292, 1, 13431⟩, ⟨0x3293, 0x3293, 1, 18091⟩, ⟨0x3294, 0x3294, 1, 8569⟩,
    ⟨0x3295, 0x3295, 1, 16356⟩, ⟨0x3296, 0x3296, 1, 23051⟩, ⟨0x3297, 0x3297, 1, 18118⟩,
    ⟨0x3298, 0x3298, 1, 8220⟩, ⟨0x3299, 0x3299, 1, 18239⟩, ⟨0x329A, 0x329A, 1, 17053⟩,
    ⟨0x329B, 0x329B, 1, 9944⟩, ⟨0x329C, 0x329C, 1, 24013⟩, ⟨0x329D, 0x329D, 1, 7821⟩,
    ⟨0x329E, 0x329E, 1, 8402⟩, ⟨0x329F, 0x329F, 1, 14921⟩, ⟨0x32A0, 0x32A0, 1, 25957⟩,
    ⟨0x32A1, 0x32A1, 1, 7280⟩, ⟨0x32A2, 0x32A2, 1, 7927⟩, ⟨0x32A3, 0x32A3, 1, 14528⟩,
    ⟨0x32A4, 0x32A4, 1, 7014⟩, ⟨0x32A5, 0x32A5, 1, 7048⟩, ⟨0x32A6, 0x32A6, 1, 7013⟩,
    ⟨0x32A7, 0x32A7, 1, 11071⟩, ⟨0x32A8, 0x32A8, 1, 8523⟩, ⟨0x32A9, 0x32A9, 1, 8338⟩,
    ⟨0x32AA, 0x32AA, 1, 10477⟩, ⟨0x32AB, 0x32AB, 1, 10427⟩, ⟨0x32AC, 0x32AC, 1, 17463⟩,
    ⟨0x32AD, 0x32AD, 1, 7252⟩, ⟨0x32AE, 0x32AE, 1, 23065⟩, ⟨0x32AF, 0x32AF, 1, 8357⟩,
    ⟨0x32B0, 0x32B0, 1, 9836⟩, ⟨0x32D0, 0x32D0, 1, -558⟩, ⟨0x32D1, 0x32D1, 1, -557⟩,
    ⟨0x32D2, 0x32D2, 1, -556⟩, ⟨0x32D3, 0x32D3, 1, -555⟩, ⟨0x32D4, 0x32D5, 1, -554⟩,
    ⟨0x32D6, 0x32D6, 1, -553⟩, ⟨0x32D7, 0x32D7, 1, -552⟩, ⟨0x32D8, 0x32D8, 1, -551⟩,
    ⟨0x32D9, 0x32D9, 1, -550⟩, ⟨0x32DA, 0x32DA, 1, -549⟩, ⟨0x32DB, 0x32DB, 1, -548⟩,
    ⟨0x32DC, 0x32DC, 1, -547⟩, ⟨0x32DD, 0x32DD, 1, -546⟩, ⟨0x32DE, 0x32DE, 1, -545⟩,
    ⟨0x32DF, 0x32DF, 1, -544⟩, ⟨0x32E0, 0x32E0, 1, -543⟩, ⟨0x32E1, 0x32E1, 1, -541⟩,
    ⟨0x32E2, 0x32E2, 1, -540⟩, ⟨0x32E3, 0x32E3, 1, -539⟩, ⟨0x32E4, 0x32E9, 1, -538⟩,
    ⟨0x32EA, 0x32EA, 1, -536⟩, ⟨0x32EB, 0x32EB, 1, -534⟩, ⟨0x32EC, 0x32EC, 1, -532⟩,
    ⟨0x32ED, 0x32ED, 1, -530⟩, ⟨0x32EE, 0x32F2, 1, -528⟩, ⟨0x32F3, 0x32F3, 1, -527⟩,
    ⟨0x32F4, 0x32F4, 1, -526⟩, ⟨0x32F5, 0x32FA, 1, -525⟩, ⟨0x32FB, 0x32FE, 1, -524⟩]

/-- Variants of ideographs. -/
def variantRows : List Row := [
    ⟨0xA69C, 0xA69C, 1, -41554⟩, ⟨0xA69D, 0xA69D, 1, -41553⟩, ⟨0xA770, 0xA770, 1, -1⟩,
    ⟨0xA7CE, 0xA7CE, 1, 1⟩, ⟨0xA7D2, 0xA7D4, 2, 1⟩, ⟨0xA7F1, 0xA7F1, 1, -42878⟩,
    ⟨0xA7F2, 0xA7F2, 1, -42895⟩, ⟨0xA7F3, 0xA7F3, 1, -42893⟩, ⟨0xA7F4, 0xA7F4, 1, -42883⟩,
    ⟨0xA7F8, 0xA7F8, 1, -42705⟩, ⟨0xA7F9, 0xA7F9, 1, -42662⟩, ⟨0xAB5C, 0xAB5C, 1, -1077⟩,
    ⟨0xAB5D, 0xAB5D, 1, -38⟩, ⟨0xAB5E, 0xAB5E, 1, -43251⟩, ⟨0xAB5F, 0xAB5F, 1, -13⟩,
    ⟨0xAB69, 0xAB69, 1, -43228⟩, ⟨0xAB70, 0xABBF, 1, -38864⟩, ⟨0xF900, 0xF900, 1, -27832⟩,
    ⟨0xF901, 0xF901, 1, -37389⟩, ⟨0xF902, 0xF902, 1, -27192⟩, ⟨0xF903, 0xF903, 1, -27707⟩,
    ⟨0xF904, 0xF904, 1, -35379⟩, ⟨0xF905, 0xF905, 1, -43731⟩, ⟨0xF906, 0xF906, 1, -42273⟩,
    ⟨0xF907, 0xF907, 1, -22891⟩, ⟨0xF908, 0xF908, 1, -22892⟩, ⟨0xF909, 0xF909, 1, -40888⟩,
    ⟨0xF90A, 0xF90A, 1, -26425⟩, ⟨0xF90B, 0xF90B, 1, -41860⟩, ⟨0xF90C, 0xF90C, 1, -40900⟩,
    ⟨0xF90D, 0xF90D, 1, -38679⟩, ⟨0xF90E, 0xF90E, 1, -33445⟩, ⟨0xF90F, 0xF90F, 1, -31114⟩,
    ⟨0xF910, 0xF910, 1, -29393⟩, ⟨0xF911, 0xF911, 1, -29015⟩, ⟨0xF912, 0xF912, 1, -28698⟩,
    ⟨0xF913, 0xF913, 1, -26756⟩, ⟨0xF914, 0xF914, 1, -36626⟩, ⟨0xF915, 0xF915, 1, -35834⟩,
    ⟨0xF916, 0xF916, 1, -34877⟩, ⟨0xF917, 0xF917, 1, -34105⟩, ⟨0xF918, 0xF918, 1, -29915⟩,
    ⟨0xF919, 0xF919, 1, -26543⟩, ⟨0xF91A, 0xF91A, 1, -24361⟩, ⟨0xF91B, 0xF91B, 1, -43673⟩,
    ⟨0xF91C, 0xF91C, 1, -42407⟩, ⟨0xF91D, 0xF91D, 1, -36377⟩, ⟨0xF91E, 0xF91E, 1, -34563⟩,
    ⟨0xF91F, 0xF91F, 1, -29426⟩, ⟨0xF920, 0xF920, 1, -23298⟩, ⟨0xF921, 0xF921, 1, -39889⟩,
    ⟨0xF922, 0xF922, 1, -35127⟩, ⟨0xF923, 0xF923, 1, -29526⟩, ⟨0xF924, 0xF924, 1, -28608⟩,
    ⟨0xF925, 0xF925, 1, -38492⟩, ⟨0xF926, 0xF926, 1, -30542⟩, ⟨0xF927, 0xF927, 1, -28936⟩,
    ⟨0xF928, 0xF928, 1, -39518⟩, ⟨0xF929, 0xF929, 1, -37394⟩, ⟨0xF92A, 0xF92A, 1, -35776⟩,
    ⟨0xF92B, 0xF92B, 1, -34351⟩, ⟨0xF92C, 0xF92C, 1, -26718⟩, ⟨0xF92D, 0xF92D, 1, -43431⟩,
    ⟨0xF92E, 0xF92E, 1, -42871⟩, ⟨0xF92F, 0xF92F, 1, -42577⟩, ⟨0xF930, 0xF930, 1, -37996⟩,
    ⟨0xF931, 0xF931, 1, -36446⟩, ⟨0xF932, 0xF932, 1, -34594⟩, ⟨0xF933, 0xF933, 1, -33356⟩,
    ⟨0xF934, 0xF934, 1, -31027⟩, ⟨0xF935, 0xF935, 1, -29487⟩, ⟨0xF936, 0xF936, 1, -29402⟩,
    ⟨0xF937, 0xF937, 1, -27464⟩, ⟨0xF938, 0xF938, 1, -25094⟩, ⟨0xF939, 0xF939, 1, -24010⟩,
    ⟨0xF93A, 0xF93A, 1, -23360⟩, ⟨0xF93B, 0xF93B, 1, -32943⟩, ⟨0xF93C, 0xF93C, 1, -32701⟩,
    ⟨0xF93D, 0xF93D, 1, -31645⟩, ⟨0xF93E, 0xF93E, 1, -30069⟩, ⟨0xF93F, 0xF93F, 1, -26171⟩,
    ⟨0xF940, 0xF940, 1, -23233⟩, ⟨0xF941, 0xF941, 1, -28267⟩, ⟨0xF942, 0xF942, 1, -41059⟩,
    ⟨0xF943, 0xF943, 1, -39487⟩, ⟨0xF944, 0xF944, 1, -31972⟩, ⟨0xF945, 0xF945, 1, -30919⟩,
    ⟨0xF946, 0xF946, 1, -34532⟩, ⟨0xF947, 0xF947, 1, -32893⟩, ⟨0xF948, 0xF948, 1, -27782⟩,
    ⟨0xF949, 0xF949, 1, -25170⟩, ⟨0xF94A, 0xF94A, 1, -41074⟩, ⟨0xF94B, 0xF94B, 1, -40169⟩,
    ⟨0xF94C, 0xF94C, 1, -36665⟩, ⟨0xF94D, 0xF94D, 1, -35699⟩, ⟨0xF94E, 0xF94E, 1, -35391⟩,
    ⟨0xF94F, 0xF94F, 1, -31776⟩, ⟨0xF950, 0xF950, 1, -31513⟩, ⟨0xF951, 0xF951, 1, -25350⟩,
    ⟨0xF952, 0xF952, 1, -42624⟩, ⟨0xF953, 0xF953, 1, -30920⟩, ⟨0xF954, 0xF954, 1, -42872⟩,
    ⟨0xF955, 0xF955, 1, -42889⟩, ⟨0xF956, 0xF956, 1, -32570⟩, ⟨0xF957, 0xF957, 1, -31641⟩,
    ⟨0xF958, 0xF958, 1, -30055⟩, ⟨0xF959, 0xF959, 1, -25316⟩, ⟨0xF95A, 0xF95A, 1, -28122⟩,
    ⟨0xF95B, 0xF95B, 1, -38540⟩, ⟨0xF95C, 0xF95C, 1, -36698⟩, ⟨0xF95D, 0xF95D, 1, -28255⟩,
    ⟨0xF95E, 0xF95E, 1, -43813⟩, ⟨0xF95F, 0xF95F, 1, -40312⟩, ⟨0xF960, 0xF960, 1, -39246⟩,
    ⟨0xF961, 0xF961, 1, -34266⟩, ⟨0xF962, 0xF962, 1, -33778⟩, ⟨0xF963, 0xF963, 1, -42572⟩,
    ⟨0xF964, 0xF964, 1, -32873⟩, ⟨0xF965, 0xF965, 1, -43430⟩, ⟨0xF966, 0xF966, 1, -39357⟩,
    ⟨0xF967, 0xF967, 1, -43866⟩, ⟨0xF968, 0xF968, 1, -35996⟩, ⟨0xF969, 0xF969, 1, -37873⟩,
    ⟨0xF96A, 0xF96A, 1, -31816⟩, ⟨0xF96B, 0xF96B, 1, -42408⟩, ⟨0xF96C, 0xF96C, 1, -41230⟩,
    ⟨0xF96D, 0xF96D, 1, -33388⟩, ⟨0xF96E, 0xF96E, 1, -29989⟩, ⟨0xF96F, 0xF96F, 1, -28357⟩,
    ⟨0xF970, 0xF970, 1, -36278⟩, ⟨0xF971, 0xF971, 1, -27073⟩, ⟨0xF972, 0xF972, 1, -36074⟩,
    ⟨0xF973, 0xF973, 1, -38517⟩, ⟨0xF974, 0xF974, 1, -30351⟩, ⟨0xF975, 0xF975, 1, -38357⟩,
    ⟨0xF976, 0xF976, 1, -33809⟩, ⟨0xF977, 0xF977, 1, -43721⟩, ⟨0xF978, 0xF978, 1, -43023⟩,
    ⟨0xF979, 0xF979, 1, -42928⟩, ⟨0xF97A, 0xF97A, 1, -37113⟩, ⟨0xF97B, 0xF97B, 1, -31892⟩,
    ⟨0xF97C, 0xF97C, 1, -30477⟩, ⟨0xF97D, 0xF97D, 1, -28331⟩, ⟨0xF97E, 0xF97E, 1, -26543⟩,
    ⟨0xF97F, 0xF97F, 1, -42634⟩, ⟨0xF980, 0xF980, 1, -42302⟩, ⟨0xF981, 0xF981, 1, -40974⟩,
    ⟨0xF982, 0xF982, 1, -39574⟩, ⟨0xF983, 0xF983, 1, -37822⟩, ⟨0xF984, 0xF984, 1, -35206⟩,
    ⟨0xF985, 0xF985, 1, -32859⟩, ⟨0xF986, 0xF986, 1, -25561⟩, ⟨0xF987, 0xF987, 1, -24349⟩,
    ⟨0xF988, 0xF988, 1, -23281⟩, ⟨0xF989, 0xF989, 1, -23227⟩, ⟨0xF98A, 0xF98A, 1, -42735⟩,
    ⟨0xF98B, 0xF98B, 1, -37573⟩, ⟨0xF98C, 0xF98C, 1, -36373⟩, ⟨0xF98D, 0xF98D, 1, -27179⟩,
    ⟨0xF98E, 0xF98E, 1, -39706⟩, ⟨0xF98F, 0xF98F, 1, -38911⟩, ⟨0xF990, 0xF990, 1, -38800⟩,
    ⟨0xF991, 0xF991, 1, -38135⟩, ⟨0xF992, 0xF992, 1, -35439⟩, ⟨0xF993, 0xF993, 1, -34890⟩,
    ⟨0xF994, 0xF994, 1, -34059⟩, ⟨0xF995, 0xF995, 1, -32715⟩, ⟨0xF996, 0xF996, 1, -31650⟩,
    ⟨0xF997, 0xF997, 1, -31016⟩, ⟨0xF998, 0xF998, 1, -27250⟩, ⟨0xF999, 0xF999, 1, -29867⟩,
    ⟨0xF99A, 0xF99A, 1, -26999⟩, ⟨0xF99B, 0xF99B, 1, -26193⟩, ⟨0xF99C, 0xF99C, 1, -42885⟩,
    ⟨0xF99D, 0xF99D, 1, -42746⟩, ⟨0xF99E, 0xF99E, 1, -42209⟩, ⟨0xF99F, 0xF99F, 1, -35031⟩,
    ⟨0xF9A0, 0xF9A0, 1, -28894⟩, ⟨0xF9A1, 0xF9A1, 1, -28407⟩, ⟨0xF9A2, 0xF9A2, 1, -39641⟩,
    ⟨0xF9A3, 0xF9A3, 1, -39342⟩, ⟨0xF9A4, 0xF9A4, 1, -38441⟩, ⟨0xF9A5, 0xF9A5, 1, -36343⟩,
    ⟨0xF9A6, 0xF9A6, 1, -32104⟩, ⟨0xF9A7, 0xF9A7, 1, -34354⟩, ⟨0xF9A8, 0xF9A8, 1, -43716⟩,
    ⟨0xF9A9, 0xF9A9, 1, -41648⟩, ⟨0xF9AA, 0xF9AA, 1, -40387⟩, ⟨0xF9AB, 0xF9AB, 1, -39921⟩,
    ⟨0xF9AC, 0xF9AC, 1, -39312⟩, ⟨0xF9AD, 0xF9AD, 1, -34299⟩, ⟨0xF9AE, 0xF9AE, 1, -34117⟩,
    ⟨0xF9AF, 0xF9AF, 1, -31253⟩, ⟨0xF9B0, 0xF9B0, 1, -31082⟩, ⟨0xF9B1, 0xF9B1, 1, -26493⟩,
    ⟨0xF9B2, 0xF9B2, 1, -25276⟩, ⟨0xF9B3, 0xF9B3, 1, -25195⟩, ⟨0xF9B4, 0xF9B4, 1, -24988⟩,
    ⟨0xF9B5, 0xF9B5, 1, -43562⟩, ⟨0xF9B6, 0xF9B6, 1, -32776⟩, ⟨0xF9B7, 0xF9B7, 1, -26627⟩,
    ⟨0xF9B8, 0xF9B8, 1, -25344⟩, ⟨0xF9B9, 0xF9B9, 1, -39128⟩, ⟨0xF9BA, 0xF9BA, 1, -43828⟩,
    ⟨0xF9BB, 0xF9BB, 1, -43233⟩, ⟨0xF9BC, 0xF9BC, 1, -40398⟩, ⟨0xF9BD, 0xF9BD, 1, -40318⟩,
    ⟨0xF9BE, 0xF9BE, 1, -37925⟩, ⟨0xF9BF, 0xF9BF, 1, -36797⟩, ⟨0xF9C0, 0xF9C0, 1, -34802⟩,
    ⟨0xF9C1, 0xF9C1, 1, -33663⟩, ⟨0xF9C2, 0xF9C2, 1, -29894⟩, ⟨0xF9C3, 0xF9C3, 1, -26951⟩,
    ⟨0xF9C4, 0xF9C4, 1, -23095⟩, ⟨0xF9C5, 0xF9C5, 1, -37693⟩, ⟨0xF9C6, 0xF9C6, 1, -25496⟩,
    ⟨0xF9C7, 0xF9C7, 1, -42814⟩, ⟨0xF9C8, 0xF9C8, 1, -37453⟩, ⟨0xF9C9, 0xF9C9, 1, -37334⟩,
    ⟨0xF9CA, 0xF9CA, 1, -35977⟩, ⟨0xF9CB, 0xF9CB, 1, -35631⟩, ⟨0xF9CC, 0xF9CC, 1, -34243⟩,
    ⟨0xF9CD, 0xF9CD, 1, -33908⟩, ⟨0xF9CE, 0xF9CE, 1, -33123⟩, ⟨0xF9CF, 0xF9CF, 1, -31935⟩,
    ⟨0xF9D0, 0xF9D0, 1, -24946⟩, ⟨0xF9D1, 0xF9D1, 1, -43108⟩, ⟨0xF9D2, 0xF9D2, 1, -38820⟩,
    ⟨0xF9D3, 0xF9D3, 1, -25435⟩, ⟨0xF9D4, 0xF9D4, 1, -43433⟩, ⟨0xF9D5, 0xF9D5, 1, -40124⟩,
    ⟨0xF9D6, 0xF9D6, 1, -35820⟩, ⟨0xF9D7, 0xF9D7, 1, -27309⟩, ⟨0xF9D8, 0xF9D8, 1, -39501⟩,
    ⟨0xF9D9, 0xF9D9, 1, -39061⟩, ⟨0xF9DA, 0xF9DA, 1, -37315⟩, ⟨0xF9DB, 0xF9DB, 1, -34388⟩,
    ⟨0xF9DC, 0xF9DC, 1, -25430⟩, ⟨0xF9DD, 0xF9DD, 1, -42932⟩, ⟨0xF9DE, 0xF9DE, 1, -42447⟩,
    ⟨0xF9DF, 0xF9DF, 1, -40314⟩, ⟨0xF9E0, 0xF9E0, 1, -37837⟩, ⟨0xF9E1, 0xF9E1, 1, -37523⟩,
    ⟨0xF9E2, 0xF9E2, 1, -37178⟩, ⟨0xF9E3, 0xF9E3, 1, -36094⟩, ⟨0xF9E4, 0xF9E4, 1, -34270⟩,
    ⟨0xF9E5, 0xF9E5, 1, -33795⟩, ⟨0xF9E6, 0xF9E6, 1, -31341⟩, ⟨0xF9E7, 0xF9E7, 1, -28952⟩,
    ⟨0xF9E8, 0xF9E8, 1, -28935⟩, ⟨0xF9E9, 0xF9E9, 1, -26653⟩, ⟨0xF9EA, 0xF9EA, 1, -25352⟩,
    ⟨0xF9EB, 0xF9EB, 1, -42668⟩, ⟨0xF9EC, 0xF9EC, 1, -35634⟩, ⟨0xF9ED, 0xF9ED, 1, -42448⟩,
    ⟨0xF9EE, 0xF9EE, 1, -34846⟩, ⟨0xF9EF, 0xF9EF, 1, -34135⟩, ⟨0xF9F0, 0xF9F0, 1, -29686⟩,
    ⟨0xF9F1, 0xF9F1, 1, -25422⟩, ⟨0xF9F2, 0xF9F2, 1, -23963⟩, ⟨0xF9F3, 0xF9F3, 1, -23380⟩,
    ⟨0xF9F4, 0xF9F4, 1, -37469⟩, ⟨0xF9F5, 0xF9F5, 1, -35882⟩, ⟨0xF9F6, 0xF9F6, 1, -30734⟩,
    ⟨0xF9F7, 0xF9F7, 1, -32556⟩, ⟨0xF9F8, 0xF9F8, 1, -32472⟩, ⟨0xF9F9, 0xF9F9, 1, -32103⟩,
    ⟨0xF9FA, 0xF9FA, 1, -34618⟩, ⟨0xF9FB, 0xF9FB, 1, -35170⟩, ⟨0xF9FC, 0xF9FC, 1, -28324⟩,
    ⟨0xF9FD, 0xF9FD, 1, -43837⟩, ⟨0xF9FE, 0xF9FE, 1, -30408⟩, ⟨0xF9FF, 0xF9FF, 1, -42949⟩,
    ⟨0xFA00, 0xFA00, 1, -43001⟩, ⟨0xFA01, 0xFA01, 1, -39771⟩, ⟨0xFA02, 0xFA02, 1, -38703⟩,
    ⟨0xFA03, 0xFA03, 1, -32045⟩, ⟨0xFA04, 0xFA04, 1, -40575⟩, ⟨0xFA05, 0xFA05, 1, -36071⟩,
    ⟨0xFA06, 0xFA06, 1, -37714⟩, ⟨0xFA07, 0xFA07, 1, -27340⟩, ⟨0xFA08, 0xFA08, 1, -29116⟩,
    ⟨0xFA09, 0xFA09, 1, -25532⟩, ⟨0xFA0A, 0xFA0A, 1, -28799⟩, ⟨0xFA0B, 0xFA0B, 1, -39736⟩,
    ⟨0xFA0C, 0xFA0C, 1, -43212⟩, ⟨0xFA0D, 0xFA0D, 1, -42061⟩, ⟨0xFA10, 0xFA10, 1, -41398⟩,
    ⟨0xFA12, 0xFA12, 1, -37790⟩, ⟨0xFA15, 0xFA15, 1, -43063⟩, ⟨0xFA16, 0xFA16, 1, -34540⟩,
    ⟨0xFA17, 0xFA17, 1, -33613⟩, ⟨0xFA18, 0xFA18, 1, -32988⟩, ⟨0xFA19, 0xFA19, 1, -32955⟩,
    ⟨0xFA1A, 0xFA1A, 1, -32949⟩, ⟨0xFA1B, 0xFA1B, 1, -32908⟩, ⟨0xFA1C, 0xFA1C, 1, -25286⟩,
    ⟨0xFA1D, 0xFA1D, 1, -32095⟩, ⟨0xFA1E, 0xFA1E, 1, -31329⟩, ⟨0xFA20, 0xFA20, 1, -29710⟩,
    ⟨0xFA22, 0xFA22, 1, -28458⟩, ⟨0xFA25, 0xFA25, 1, -27117⟩, ⟨0xFA26, 0xFA26, 1, -26921⟩,
    ⟨0xFA2A, 0xFA2A, 1, -24891⟩, ⟨0xFA2B, 0xFA2B, 1, -24879⟩, ⟨0xFA2C, 0xFA2C, 1, -24836⟩,
    ⟨0xFA2D, 0xFA2D, 1, -23673⟩, ⟨0xFA2E, 0xFA2E, 1, -26960⟩, ⟨0xFA2F, 0xFA2F, 1, -25464⟩,
    ⟨0xFA30, 0xFA30, 1, -43650⟩, ⟨0xFA31, 0xFA31, 1, -43338⟩, ⟨0xFA32, 0xFA32, 1, -43237⟩,
    ⟨0xFA33, 0xFA33, 1, -42858⟩, ⟨0xFA34, 0xFA34, 1, -42832⟩, ⟨0xFA35, 0xFA35, 1, -42724⟩,
    ⟨0xFA36, 0xFA36, 1, -42137⟩, ⟨0xFA37, 0xFA37, 1, -42033⟩, ⟨0xFA38, 0xFA38, 1, -41936⟩,
    ⟨0xFA39, 0xFA39, 1, -41465⟩, ⟨0xFA3A, 0xFA3A, 1, -41362⟩, ⟨0xFA3B, 0xFA3B, 1, -40407⟩,
    ⟨0xFA3C, 0xFA3C, 1, -40398⟩, ⟨0xFA3D, 0xFA3D, 1, -39337⟩, ⟨0xFA3E, 0xFA3E, 1, -39126⟩,
    ⟨0xFA3F, 0xFA3F, 1, -39089⟩, ⟨0xFA40, 0xFA40, 1, -38990⟩, ⟨0xFA41, 0xFA41, 1, -38130⟩,
    ⟨0xFA42, 0xFA42, 1, -37984⟩, ⟨0xFA43, 0xFA43, 1, -37810⟩, ⟨0xFA44, 0xFA44, 1, -37311⟩,
    ⟨0xFA45, 0xFA45, 1, -36046⟩, ⟨0xFA46, 0xFA46, 1, -35884⟩, ⟨0xFA47, 0xFA47, 1, -35621⟩,
    ⟨0xFA48, 0xFA48, 1, -35034⟩, ⟨0xFA49, 0xFA49, 1, -34846⟩, ⟨0xFA4A, 0xFA4A, 1, -34344⟩,
    ⟨0xFA4B, 0xFA4B, 1, -33210⟩, ⟨0xFA4C, 0xFA4C, 1, -33038⟩, ⟨0xFA4D, 0xFA4D, 1, -33028⟩,
    ⟨0xFA4E, 0xFA4E, 1, -33030⟩, ⟨0xFA4F, 0xFA4F, 1, -33023⟩, ⟨0xFA50, 0xFA50, 1, -33018⟩,
    ⟨0xFA51, 0xFA51, 1, -33012⟩, ⟨0xFA52, 0xFA53, 1, -32965⟩, ⟨0xFA54, 0xFA54, 1, -32788⟩,
    ⟨0xFA55, 0xFA55, 1, -32724⟩, ⟨0xFA56, 0xFA56, 1, -32406⟩, ⟨0xFA57, 0xFA57, 1, -31843⟩,
    ⟨0xFA58, 0xFA58, 1, -31823⟩, ⟨0xFA59, 0xFA59, 1, -31768⟩, ⟨0xFA5A, 0xFA5A, 1, -31464⟩,
    ⟨0xFA5B, 0xFA5B, 1, -31318⟩, ⟨0xFA5C, 0xFA5C, 1, -30831⟩, ⟨0xFA5D, 0xFA5D, 1, -30692⟩,
    ⟨0xFA5E, 0xFA5E, 1, -30693⟩, ⟨0xFA5F, 0xFA5F, 1, -30216⟩, ⟨0xFA60, 0xFA60, 1, -29008⟩,
    ⟨0xFA61, 0xFA61, 1, -28875⟩, ⟨0xFA62, 0xFA62, 1, -28513⟩, ⟨0xFA63, 0xFA63, 1, -28458⟩,
    ⟨0xFA64, 0xFA64, 1, -28049⟩, ⟨0xFA65, 0xFA65, 1, -27997⟩, ⟨0xFA66, 0xFA66, 1, -27312⟩,
    ⟨0xFA67, 0xFA67, 1, -27183⟩, ⟨0xFA68, 0xFA68, 1, -25477⟩, ⟨0xFA69, 0xFA69, 1, -25194⟩,
    ⟨0xFA6A, 0xFA6A, 1, -25135⟩, ⟨0xFA6B, 0xFA6B, 1, -39414⟩, ⟨0xFA6C, 0xFA6C, 1, 84098⟩,
    ⟨0xFA6D, 0xFA6D, 1, -30805⟩, ⟨0xFA70, 0xFA70, 1, -44106⟩, ⟨0xFA71, 0xFA71, 1, -43196⟩,
    ⟨0xFA72, 0xFA72, 1, -43274⟩, ⟨0xFA73, 0xFA73, 1, -43763⟩, ⟨0xFA74, 0xFA74, 1, -43311⟩,
    ⟨0xFA75, 0xFA75, 1, -43253⟩, ⟨0xFA76, 0xFA76, 1, -42927⟩, ⟨0xFA77, 0xFA77, 1, -42877⟩,
    ⟨0xFA78, 0xFA78, 1, -42203⟩, ⟨0xFA79, 0xFA79, 1, -42276⟩, ⟨0xFA7A, 0xFA7A, 1, -42209⟩,
    ⟨0xFA7B, 0xFA7B, 1, -42137⟩, ⟨0xFA7C, 0xFA7C, 1, -41506⟩, ⟨0xFA7D, 0xFA7D, 1, -41418⟩,
    ⟨0xFA7E, 0xFA7E, 1, -41274⟩, ⟨0xFA7F, 0xFA7F, 1, -41259⟩, ⟨0xFA80, 0xFA80, 1, -40990⟩,
    ⟨0xFA81, 0xFA81, 1, -40793⟩, ⟨0xFA82, 0xFA82, 1, -39856⟩, ⟨0xFA83, 0xFA83, 1, -39850⟩,
    ⟨0xFA84, 0xFA84, 1, -39707⟩, ⟨0xFA85, 0xFA85, 1, -39640⟩, ⟨0xFA86, 0xFA86, 1, -39342⟩,
    ⟨0xFA87, 0xFA87, 1, -39225⟩, ⟨0xFA88, 0xFA88, 1, -39296⟩, ⟨0xFA89, 0xFA89, 1, -39163⟩,
    ⟨0xFA8A, 0xFA8A, 1, -39210⟩, ⟨0xFA8B, 0xFA8B, 1, -39065⟩, ⟨0xFA8C, 0xFA8C, 1, -39000⟩,
    ⟨0xFA8D, 0xFA8D, 1, -38601⟩, ⟨0xFA8E, 0xFA8E, 1, -38514⟩, ⟨0xFA8F, 0xFA8F, 1, -38461⟩,
    ⟨0xFA90, 0xFA90, 1, -38202⟩, ⟨0xFA91, 0xFA91, 1, -37917⟩, ⟨0xFA92, 0xFA92, 1, -37755⟩,
    ⟨0xFA93, 0xFA93, 1, -37752⟩, ⟨0xFA94, 0xFA94, 1, -37694⟩, ⟨0xFA95, 0xFA95, 1, -36636⟩,
    ⟨0xFA96, 0xFA96, 1, -36572⟩, ⟨0xFA97, 0xFA97, 1, -36182⟩, ⟨0xFA98, 0xFA98, 1, -35773⟩,
    ⟨0xFA99, 0xFA99, 1, -35790⟩, ⟨0xFA9A, 0xFA9A, 1, -35704⟩, ⟨0xFA9B, 0xFA9B, 1, -35453⟩,
    ⟨0xFA9C, 0xFA9C, 1, -35118⟩, ⟨0xFA9D, 0xFA9D, 1, -33526⟩, ⟨0xFA9E, 0xFA9E, 1, -34921⟩,
    ⟨0xFA9F, 0xFA9F, 1, -34800⟩, ⟨0xFAA0, 0xFAA0, 1, -34678⟩, ⟨0xFAA1, 0xFAA1, 1, -34352⟩,
    ⟨0xFAA2, 0xFAA2, 1, -34204⟩, ⟨0xFAA3, 0xFAA3, 1, -34152⟩, ⟨0xFAA4, 0xFAA4, 1, -33927⟩,
    ⟨0xFAA5, 0xFAA5, 1, -33926⟩, ⟨0xFAA6, 0xFAA6, 1, -33756⟩, ⟨0xFAA7, 0xFAA7, 1, -33740⟩,
    ⟨0xFAA8, 0xFAA8, 1, -33716⟩, ⟨0xFAA9, 0xFAA9, 1, -33631⟩, ⟨0xFAAA, 0xFAAA, 1, -33642⟩,
    ⟨0xFAAB, 0xFAAB, 1, -33247⟩, ⟨0xFAAC, 0xFAAC, 1, -32763⟩, ⟨0xFAAD, 0xFAAD, 1, -32493⟩,
    ⟨0xFAAE, 0xFAAE, 1, -32307⟩, ⟨0xFAAF, 0xFAAF, 1, -32084⟩, ⟨0xFAB0, 0xFAB0, 1, -31932⟩,
    ⟨0xFAB1, 0xFAB1, 1, -31603⟩, ⟨0xFAB2, 0xFAB2, 1, -31405⟩, ⟨0xFAB3, 0xFAB3, 1, -30561⟩,
    ⟨0xFAB4, 0xFAB4, 1, -30405⟩, ⟨0xFAB5, 0xFAB5, 1, -29500⟩, ⟨0xFAB6, 0xFAB6, 1, -29045⟩,
    ⟨0xFAB7, 0xFAB7, 1, -28977⟩, ⟨0xFAB8, 0xFAB8, 1, -28962⟩, ⟨0xFAB9, 0xFAB9, 1, -28666⟩,
    ⟨0xFABA, 0xFABA, 1, -28610⟩, ⟨0xFABB, 0xFABB, 1, -28656⟩, ⟨0xFABC, 0xFABC, 1, -28603⟩,
    ⟨0xFABD, 0xFABD, 1, -28607⟩, ⟨0xFABE, 0xFABE, 1, -28625⟩, ⟨0xFABF, 0xFABF, 1, -28550⟩,
    ⟨0xFAC0, 0xFAC0, 1, -28470⟩, ⟨0xFAC1, 0xFAC1, 1, -28089⟩, ⟨0xFAC2, 0xFAC2, 1, -27530⟩,
    ⟨0xFAC3, 0xFAC3, 1, -27217⟩, ⟨0xFAC4, 0xFAC4, 1, -26923⟩, ⟨0xFAC5, 0xFAC5, 1, -26703⟩,
    ⟨0xFAC6, 0xFAC6, 1, -25674⟩, ⟨0xFAC7, 0xFAC7, 1, -25572⟩, ⟨0xFAC8, 0xFAC8, 1, -25458⟩,
    ⟨0xFAC9, 0xFAC9, 1, -25326⟩, ⟨0xFACA, 0xFACA, 1, -25291⟩, ⟨0xFACB, 0xFACB, 1, -25280⟩,
    ⟨0xFACC, 0xFACC, 1, -25233⟩, ⟨0xFACD, 0xFACD, 1, -24507⟩, ⟨0xFACE, 0xFACE, 1, -23346⟩,
    ⟨0xFACF, 0xFACF, 1, 77179⟩, ⟨0xFAD0, 0xFAD0, 1, 77172⟩, ⟨0xFAD1, 0xFAD1, 1, 80132⟩,
    ⟨0xFAD2, 0xFAD2, 1, -48949⟩, ⟨0xFAD3, 0xFAD3, 1, -47803⟩, ⟨0xFAD4, 0xFAD4, 1, -47771⟩,
    ⟨0xFAD5, 0xFAD5, 1, 87924⟩, ⟨0xFAD6, 0xFAD6, 1, 90618⟩, ⟨0xFAD7, 0xFAD7, 1, 99324⟩,
    ⟨0xFAD8, 0xFAD8, 1, -23445⟩, ⟨0xFAD9, 0xFAD9, 1, -23371⟩]

/-- Further variants of ideographs. -/
def furtherRows : List Row := [
    ⟨0x2F800, 0x2F800, 1, -174531⟩, ⟨0x2F801, 0x2F801, 1, -174537⟩, ⟨0x2F802, 0x2F802, 1, -174529⟩,
    ⟨0x2F803, 0x2F803, 1, -63201⟩, ⟨0x2F804, 0x2F804, 1, -174244⟩, ⟨0x2F805, 0x2F805, 1, -174167⟩,
    ⟨0x2F806, 0x2F806, 1, -174155⟩, ⟨0x2F807, 0x2F807, 1, -174085⟩, ⟨0x2F808, 0x2F808, 1, -173966⟩,
    ⟨0x2F809, 0x2F809, 1, -173936⟩, ⟨0x2F80A, 0x2F80A, 1, -173859⟩, ⟨0x2F80B, 0x2F80B, 1, -173884⟩,
    ⟨0x2F80C, 0x2F80C, 1, -181102⟩, ⟨0x2F80D, 0x2F80D, 1, -61907⟩, ⟨0x2F80E, 0x2F80E, 1, -173761⟩,
    ⟨0x2F80F, 0x2F80F, 1, -173755⟩, ⟨0x2F810, 0x2F810, 1, -173740⟩, ⟨0x2F811, 0x2F811, 1, -173722⟩,
    ⟨0x2F812, 0x2F812, 1, -62198⟩, ⟨0x2F813, 0x2F813, 1, -181082⟩, ⟨0x2F814, 0x2F814, 1, -173741⟩,
    ⟨0x2F815, 0x2F815, 1, -173704⟩, ⟨0x2F816, 0x2F816, 1, -62155⟩, ⟨0x2F817, 0x2F817, 1, -173696⟩,
    ⟨0x2F818, 0x2F818, 1, -173684⟩, ⟨0x2F819, 0x2F819, 1, -174413⟩, ⟨0x2F81A, 0x2F81A, 1, -173678⟩,
    ⟨0x2F81B, 0x2F81B, 1, -173670⟩, ⟨0x2F81C, 0x2F81C, 1, -26173⟩, ⟨0x2F81D, 0x2F81D, 1, -173608⟩,
    ⟨0x2F81E, 0x2F81E, 1, -173595⟩, ⟨0x2F81F, 0x2F81F, 1, -181056⟩, ⟨0x2F820, 0x2F820, 1, -173541⟩,
    ⟨0x2F821, 0x2F821, 1, -173531⟩, ⟨0x2F822, 0x2F822, 1, -173488⟩, ⟨0x2F823, 0x2F823, 1, -173484⟩,
    ⟨0x2F824, 0x2F824, 1, -181007⟩, ⟨0x2F825, 0x2F825, 1, -173406⟩, ⟨0x2F826, 0x2F826, 1, -173405⟩,
    ⟨0x2F827, 0x2F827, 1, -173379⟩, ⟨0x2F828, 0x2F828, 1, -173358⟩, ⟨0x2F829, 0x2F82A, 1, -173348⟩,
    ⟨0x2F82B, 0x2F82B, 1, -173332⟩, ⟨0x2F82C, 0x2F82C, 1, -173283⟩, ⟨0x2F82D, 0x2F82D, 1, -173276⟩,
    ⟨0x2F82E, 0x2F82E, 1, -173268⟩, ⟨0x2F82F, 0x2F82F, 1, -173244⟩, ⟨0x2F830, 0x2F832, 2, -173235⟩,
    ⟨0x2F831, 0x2F831, 1, -173234⟩, ⟨0x2F833, 0x2F833, 1, -173236⟩, ⟨0x2F834, 0x2F834, 1, -60936⟩,
    ⟨0x2F835, 0x2F835, 1, -165829⟩, ⟨0x2F836, 0x2F836, 1, -173164⟩, ⟨0x2F837, 0x2F837, 1, -173144⟩,
    ⟨0x2F838, 0x2F838, 1, -60629⟩, ⟨0x2F839, 0x2F839, 1, -173134⟩, ⟨0x2F83A, 0x2F83A, 1, -173129⟩,
    ⟨0x2F83B, 0x2F83B, 1, -173109⟩, ⟨0x2F83C, 0x2F83C, 1, -172958⟩, ⟨0x2F83D, 0x2F83D, 1, -173061⟩,
    ⟨0x2F83E, 0x2F83E, 1, -173046⟩, ⟨0x2F83F, 0x2F83F, 1, -173015⟩, ⟨0x2F840, 0x2F840, 1, -172958⟩,
    ⟨0x2F841, 0x2F841, 1, -172875⟩, ⟨0x2F842, 0x2F842, 1, -172850⟩, ⟨0x2F843, 0x2F843, 1, -172784⟩,
    ⟨0x2F844, 0x2F844, 1, -172769⟩, ⟨0x2F845, 0x2F845, 1, -172737⟩, ⟨0x2F846, 0x2F846, 1, -172738⟩,
    ⟨0x2F847, 0x2F847, 1, -172718⟩, ⟨0x2F848, 0x2F848, 1, -172701⟩, ⟨0x2F849, 0x2F849, 1, -172694⟩,
    ⟨0x2F84A, 0x2F84A, 1, -172680⟩, ⟨0x2F84B, 0x2F84B, 1, -172341⟩, ⟨0x2F84C, 0x2F84C, 1, -172614⟩,
    ⟨0x2F84D, 0x2F84D, 1, -172342⟩, ⟨0x2F84E, 0x2F84E, 1, -172541⟩, ⟨0x2F84F, 0x2F84F, 1, -172507⟩,
    ⟨0x2F850, 0x2F850, 1, -173641⟩, ⟨0x2F851, 0x2F851, 1, -171875⟩, ⟨0x2F852, 0x2F852, 1, -172164⟩,
    ⟨0x2F853, 0x2F853, 1, -172127⟩, ⟨0x2F854, 0x2F854, 1, -172103⟩, ⟨0x2F855, 0x2F855, 1, -172234⟩,
    ⟨0x2F856, 0x2F856, 1, -172068⟩, ⟨0x2F857, 0x2F857, 1, -172070⟩, ⟨0x2F858, 0x2F858, 1, -171948⟩,
    ⟨0x2F859, 0x2F859, 1, -58229⟩, ⟨0x2F85A, 0x2F85A, 1, -171880⟩, ⟨0x2F85B, 0x2F85B, 1, -171876⟩,
    ⟨0x2F85C, 0x2F85C, 1, -171862⟩, ⟨0x2F85D, 0x2F85D, 1, -171843⟩, ⟨0x2F85E, 0x2F85E, 1, -171836⟩,
    ⟨0x2F85F, 0x2F85F, 1, -171773⟩, ⟨0x2F860, 0x2F860, 1, -57784⟩, ⟨0x2F861, 0x2F861, 1, -57719⟩,
    ⟨0x2F862, 0x2F862, 1, -171638⟩, ⟨0x2F863, 0x2F863, 1, -171592⟩, ⟨0x2F864, 0x2F864, 1, -171581⟩,
    ⟨0x2F865, 0x2F865, 1, -171661⟩, ⟨0x2F866, 0x2F866, 1, -171520⟩, ⟨0x2F867, 0x2F867, 1, -180601⟩,
    ⟨0x2F868, 0x2F868, 1, -180588⟩, ⟨0x2F869, 0x2F869, 1, -171361⟩, ⟨0x2F86A, 0x2F86A, 1, -171308⟩,
    ⟨0x2F86B, 0x2F86B, 1, -171309⟩, ⟨0x2F86C, 0x2F86C, 1, -56996⟩, ⟨0x2F86D, 0x2F86D, 1, -171178⟩,
    ⟨0x2F86E, 0x2F86E, 1, -171158⟩, ⟨0x2F86F, 0x2F86F, 1, -171144⟩, ⟨0x2F870, 0x2F870, 1, -171133⟩,
    ⟨0x2F871, 0x2F871, 1, -56665⟩, ⟨0x2F872, 0x2F872, 1, -171123⟩, ⟨0x2F873, 0x2F873, 1, -171117⟩,
    ⟨0x2F874, 0x2F874, 1, -170273⟩, ⟨0x2F875, 0x2F875, 1, -171091⟩, ⟨0x2F876, 0x2F876, 1, -180469⟩,
    ⟨0x2F877, 0x2F877, 1, -171031⟩, ⟨0x2F878, 0x2F878, 1, -171018⟩, ⟨0x2F879, 0x2F879, 1, -170937⟩,
    ⟨0x2F87A, 0x2F87A, 1, -170989⟩, ⟨0x2F87B, 0x2F87D, 2, -55959⟩, ⟨0x2F87C, 0x2F87C, 1, -170809⟩,
    ⟨0x2F87E, 0x2F87E, 1, -170768⟩, ⟨0x2F87F, 0x2F87F, 1, -170772⟩, ⟨0x2F880, 0x2F880, 1, -170756⟩,
    ⟨0x2F881, 0x2F882, 1, -170656⟩, ⟨0x2F883, 0x2F883, 1, -180308⟩, ⟨0x2F884, 0x2F884, 1, -170631⟩,
    ⟨0x2F885, 0x2F885, 1, -170589⟩, ⟨0x2F886, 0x2F886, 1, -170569⟩, ⟨0x2F887, 0x2F887, 1, -170526⟩,
    ⟨0x2F888, 0x2F888, 1, -180262⟩, ⟨0x2F889, 0x2F889, 1, -55046⟩, ⟨0x2F88A, 0x2F88A, 1, -180238⟩,
    ⟨0x2F88B, 0x2F88B, 1, -170459⟩, ⟨0x2F88C, 0x2F88C, 1, -170457⟩, ⟨0x2F88D, 0x2F88D, 1, -170455⟩,
    ⟨0x2F88E, 0x2F88E, 1, -170436⟩, ⟨0x2F88F, 0x2F88F, 1, -21757⟩, ⟨0x2F890, 0x2F890, 1, -170386⟩,
    ⟨0x2F891, 0x2F891, 1, -54624⟩, ⟨0x2F892, 0x2F892, 1, -54625⟩, ⟨0x2F893, 0x2F893, 1, -161426⟩,
    ⟨0x2F894, 0x2F894, 1, -170354⟩, ⟨0x2F895, 0x2F895, 1, -170355⟩, ⟨0x2F896, 0x2F896, 1, -180175⟩,
    ⟨0x2F897, 0x2F897, 1, -50655⟩, ⟨0x2F898, 0x2F898, 1, -38590⟩, ⟨0x2F899, 0x2F899, 1, -170295⟩,
    ⟨0x2F89A, 0x2F89A, 1, -170287⟩, ⟨0x2F89B, 0x2F89B, 1, -180152⟩, ⟨0x2F89C, 0x2F89C, 1, -170242⟩,
    ⟨0x2F89D, 0x2F89D, 1, -170192⟩, ⟨0x2F89E, 0x2F89E, 1, -170183⟩, ⟨0x2F89F, 0x2F89F, 1, -170150⟩,
    ⟨0x2F8A0, 0x2F8A0, 1, -170015⟩, ⟨0x2F8A1, 0x2F8A1, 1, -180071⟩, ⟨0x2F8A2, 0x2F8A2, 1, -180102⟩,
    ⟨0x2F8A3, 0x2F8A3, 1, -169999⟩, ⟨0x2F8A4, 0x2F8A4, 1, -53712⟩, ⟨0x2F8A5, 0x2F8A5, 1, -169950⟩,
    ⟨0x2F8A6, 0x2F8A6, 1, -169822⟩, ⟨0x2F8A7, 0x2F8A7, 1, -169819⟩, ⟨0x2F8A8, 0x2F8A8, 1, -169818⟩,
    ⟨0x2F8A9, 0x2F8A9, 1, -169821⟩, ⟨0x2F8AA, 0x2F8AA, 1, -169776⟩, ⟨0x2F8AB, 0x2F8AB, 1, -169757⟩,
    ⟨0x2F8AC, 0x2F8AC, 1, -169722⟩, ⟨0x2F8AD, 0x2F8AD, 1, -169737⟩, ⟨0x2F8AE, 0x2F8AE, 1, -169727⟩,
    ⟨0x2F8AF, 0x2F8AF, 1, -169681⟩, ⟨0x2F8B0, 0x2F8B0, 1, -169662⟩, ⟨0x2F8B1, 0x2F8B1, 1, -169659⟩,
    ⟨0x2F8B2, 0x2F8B2, 1, -169634⟩, ⟨0x2F8B3, 0x2F8B3, 1, -169624⟩, ⟨0x2F8B4, 0x2F8B4, 1, -169559⟩,
    ⟨0x2F8B5, 0x2F8B5, 1, -169476⟩, ⟨0x2F8B6, 0x2F8B6, 1, -169442⟩, ⟨0x2F8B7, 0x2F8B7, 1, -169319⟩,
    ⟨0x2F8B8, 0x2F8B8, 1, -52652⟩, ⟨0x2F8B9, 0x2F8B9, 1, -169340⟩, ⟨0x2F8BA, 0x2F8BA, 1, -169406⟩,
    ⟨0x2F8BB, 0x2F8BB, 1, -169299⟩, ⟨0x2F8BC, 0x2F8BC, 1, -169273⟩, ⟨0x2F8BD, 0x2F8BD, 1, -169177⟩,
    ⟨0x2F8BE, 0x2F8BE, 1, -52429⟩, ⟨0x2F8BF, 0x2F8BF, 1, -169117⟩, ⟨0x2F8C0, 0x2F8C0, 1, -169211⟩,
    ⟨0x2F8C1, 0x2F8C1, 1, -169240⟩, ⟨0x2F8C2, 0x2F8C2, 1, -179860⟩, ⟨0x2F8C3, 0x2F8C3, 1, -169050⟩,
    ⟨0x2F8C4, 0x2F8C4, 1, -169030⟩, ⟨0x2F8C5, 0x2F8C5, 1, -169000⟩, ⟨0x2F8C6, 0x2F8C6, 1, -169039⟩,
    ⟨0x2F8C7, 0x2F8C7, 1, -179803⟩, ⟨0x2F8C8, 0x2F8C8, 1, -168825⟩, ⟨0x2F8C9, 0x2F8C9, 1, -168797⟩,
    ⟨0x2F8CA, 0x2F8CA, 1, -51392⟩, ⟨0x2F8CB, 0x2F8CB, 1, -168680⟩, ⟨0x2F8CC, 0x2F8CC, 1, -168404⟩,
    ⟨0x2F8CD, 0x2F8CD, 1, -168580⟩, ⟨0x2F8CE, 0x2F8CE, 1, -179637⟩, ⟨0x2F8CF, 0x2F8CF, 1, -168510⟩,
    ⟨0x2F8D0, 0x2F8D0, 1, -179656⟩, ⟨0x2F8D1, 0x2F8D1, 1, -179693⟩, ⟨0x2F8D2, 0x2F8D2, 1, -173888⟩,
    ⟨0x2F8D3, 0x2F8D3, 1, -173886⟩, ⟨0x2F8D4, 0x2F8D4, 1, -168404⟩, ⟨0x2F8D5, 0x2F8D5, 1, -168505⟩,
    ⟨0x2F8D6, 0x2F8D6, 1, -161833⟩, ⟨0x2F8D7, 0x2F8D7, 1, -177406⟩, ⟨0x2F8D8, 0x2F8D8, 1, -168385⟩,
    ⟨0x2F8D9, 0x2F8D9, 1, -168382⟩, ⟨0x2F8DA, 0x2F8DA, 1, -168377⟩, ⟨0x2F8DB, 0x2F8DB, 1, -168317⟩,
    ⟨0x2F8DC, 0x2F8DC, 1, -168329⟩, ⟨0x2F8DD, 0x2F8DD, 1, -50458⟩, ⟨0x2F8DE, 0x2F8DE, 1, -179605⟩,
    ⟨0x2F8DF, 0x2F8DF, 1, -168165⟩, ⟨0x2F8E0, 0x2F8E0, 1, -168283⟩, ⟨0x2F8E1, 0x2F8E1, 1, -168079⟩,
    ⟨0x2F8E2, 0x2F8E2, 1, -168029⟩, ⟨0x2F8E3, 0x2F8E3, 1, -50294⟩, ⟨0x2F8E4, 0x2F8E4, 1, -168022⟩,
    ⟨0x2F8E5, 0x2F8E5, 1, -168134⟩, ⟨0x2F8E6, 0x2F8E6, 1, -167890⟩, ⟨0x2F8E7, 0x2F8E7, 1, -179530⟩,
    ⟨0x2F8E8, 0x2F8E8, 1, -167846⟩, ⟨0x2F8E9, 0x2F8E9, 1, -167750⟩, ⟨0x2F8EA, 0x2F8EA, 1, -167680⟩,
    ⟨0x2F8EB, 0x2F8EB, 1, -167491⟩, ⟨0x2F8EC, 0x2F8EC, 1, -49737⟩, ⟨0x2F8ED, 0x2F8ED, 1, -167442⟩,
    ⟨0x2F8EE, 0x2F8EE, 1, -179414⟩, ⟨0x2F8EF, 0x2F8EF, 1, -167374⟩, ⟨0x2F8F0, 0x2F8F0, 1, -49225⟩,
    ⟨0x2F8F1, 0x2F8F1, 1, -167325⟩, ⟨0x2F8F2, 0x2F8F2, 1, -179364⟩, ⟨0x2F8F3, 0x2F8F3, 1, -167297⟩,
    ⟨0x2F8F4, 0x2F8F4, 1, -167253⟩, ⟨0x2F8F5, 0x2F8F6, 1, -167227⟩, ⟨0x2F8F7, 0x2F8F7, 1, -48746⟩,
    ⟨0x2F8F8, 0x2F8F8, 1, -56301⟩, ⟨0x2F8F9, 0x2F8F9, 1, -48639⟩, ⟨0x2F8FA, 0x2F8FA, 1, -167084⟩,
    ⟨0x2F8FB, 0x2F8FB, 1, -48191⟩, ⟨0x2F8FC, 0x2F8FC, 1, -166973⟩, ⟨0x2F8FD, 0x2F8FD, 1, -166960⟩,
    ⟨0x2F8FE, 0x2F8FE, 1, -167063⟩, ⟨0x2F8FF, 0x2F8FF, 1, -166889⟩, ⟨0x2F900, 0x2F900, 1, -166850⟩,
    ⟨0x2F901, 0x2F901, 1, -166794⟩, ⟨0x2F902, 0x2F902, 1, -166849⟩, ⟨0x2F903, 0x2F903, 1, -166810⟩,
    ⟨0x2F904, 0x2F904, 1, -166796⟩, ⟨0x2F905, 0x2F905, 1, -166784⟩, ⟨0x2F906, 0x2F906, 1, -48104⟩,
    ⟨0x2F907, 0x2F907, 1, -166867⟩, ⟨0x2F908, 0x2F908, 1, -166617⟩, ⟨0x2F909, 0x2F909, 1, -166555⟩,
    ⟨0x2F90A, 0x2F90A, 1, -179159⟩, ⟨0x2F90B, 0x2F90B, 1, -166464⟩, ⟨0x2F90C, 0x2F90C, 1, -166469⟩,
    ⟨0x2F90D, 0x2F90D, 1, -47676⟩, ⟨0x2F90E, 0x2F90E, 1, -166677⟩, ⟨0x2F90F, 0x2F90F, 1, -166305⟩,
    ⟨0x2F910, 0x2F910, 1, -47538⟩, ⟨0x2F911, 0x2F911, 1, -47491⟩, ⟨0x2F912, 0x2F912, 1, -166220⟩,
    ⟨0x2F913, 0x2F913, 1, -166106⟩, ⟨0x2F914, 0x2F914, 1, -166134⟩, ⟨0x2F915, 0x2F915, 1, -166138⟩,
    ⟨0x2F916, 0x2F916, 1, -179072⟩, ⟨0x2F917, 0x2F917, 1, -166093⟩, ⟨0x2F918, 0x2F918, 1, -166043⟩,
    ⟨0x2F919, 0x2F919, 1, -166050⟩, ⟨0x2F91A, 0x2F91A, 1, -165997⟩, ⟨0x2F91B, 0x2F91B, 1, -62454⟩,
    ⟨0x2F91C, 0x2F91C, 1, -165847⟩, ⟨0x2F91D, 0x2F91D, 1, -46778⟩, ⟨0x2F91E, 0x2F91E, 1, -165762⟩,
    ⟨0x2F91F, 0x2F91F, 1, -46452⟩, ⟨0x2F920, 0x2F920, 1, -165624⟩, ⟨0x2F921, 0x2F921, 1, -165612⟩,
    ⟨0x2F922, 0x2F922, 1, -165586⟩, ⟨0x2F923, 0x2F923, 1, -45851⟩, ⟨0x2F924, 0x2F924, 1, -165540⟩,
    ⟨0x2F925, 0x2F925, 1, -165520⟩, ⟨0x2F926, 0x2F926, 1, -45553⟩, ⟨0x2F927, 0x2F927, 1, -45331⟩,
    ⟨0x2F928, 0x2F928, 1, -165294⟩, ⟨0x2F929, 0x2F929, 1, -165278⟩, ⟨0x2F92A, 0x2F92A, 1, -178814⟩,
    ⟨0x2F92B, 0x2F92B, 1, -165254⟩, ⟨0x2F92C, 0x2F92C, 1, -178804⟩, ⟨0x2F92D, 0x2F92D, 1, -178805⟩,
    ⟨0x2F92E, 0x2F92E, 1, -165095⟩, ⟨0x2F92F, 0x2F92F, 1, -165075⟩, ⟨0x2F930, 0x2F930, 1, -165055⟩,
    ⟨0x2F931, 0x2F931, 1, -165036⟩, ⟨0x2F932, 0x2F932, 1, -164968⟩, ⟨0x2F933, 0x2F933, 1, -178712⟩,
    ⟨0x2F934, 0x2F934, 1, -164880⟩, ⟨0x2F935, 0x2F935, 1, -44287⟩, ⟨0x2F936, 0x2F936, 1, -164856⟩,
    ⟨0x2F937, 0x2F937, 1, -44197⟩, ⟨0x2F938, 0x2F938, 1, -164808⟩, ⟨0x2F939, 0x2F939, 1, -55194⟩,
    ⟨0x2F93A, 0x2F93A, 1, -164650⟩, ⟨0x2F93B, 0x2F93B, 1, -43418⟩, ⟨0x2F93C, 0x2F93C, 1, -43396⟩,
    ⟨0x2F93D, 0x2F93D, 1, -43257⟩, ⟨0x2F93E, 0x2F93E, 1, -178498⟩, ⟨0x2F93F, 0x2F93F, 1, -178487⟩,
    ⟨0x2F940, 0x2F940, 1, -164428⟩, ⟨0x2F941, 0x2F941, 1, -43086⟩, ⟨0x2F942, 0x2F942, 1, -43088⟩,
    ⟨0x2F943, 0x2F943, 1, -43050⟩, ⟨0x2F944, 0x2F944, 1, -43025⟩, ⟨0x2F945, 0x2F946, 1, -164391⟩,
    ⟨0x2F947, 0x2F947, 1, -164392⟩, ⟨0x2F948, 0x2F948, 1, -164350⟩, ⟨0x2F949, 0x2F949, 1, -178448⟩,
    ⟨0x2F94A, 0x2F94A, 1, -164287⟩, ⟨0x2F94B, 0x2F94B, 1, -178437⟩, ⟨0x2F94C, 0x2F94C, 1, -178358⟩,
    ⟨0x2F94D, 0x2F94D, 1, -42288⟩, ⟨0x2F94E, 0x2F94E, 1, -164096⟩, ⟨0x2F94F, 0x2F94F, 1, -164035⟩,
    ⟨0x2F950, 0x2F950, 1, -163972⟩, ⟨0x2F951, 0x2F951, 1, -178286⟩, ⟨0x2F952, 0x2F952, 1, -41772⟩,
    ⟨0x2F953, 0x2F953, 1, -163837⟩, ⟨0x2F954, 0x2F954, 1, -41658⟩, ⟨0x2F955, 0x2F955, 1, -41616⟩,
    ⟨0x2F956, 0x2F956, 1, -163783⟩, ⟨0x2F957, 0x2F957, 1, -163692⟩, ⟨0x2F958, 0x2F958, 1, -178217⟩,
    ⟨0x2F959, 0x2F959, 1, -163609⟩, ⟨0x2F95A, 0x2F95A, 1, -163600⟩, ⟨0x2F95B, 0x2F95B, 1, -163596⟩,
    ⟨0x2F95C, 0x2F95C, 1, -40928⟩, ⟨0x2F95D, 0x2F95D, 1, -40630⟩, ⟨0x2F95E, 0x2F95E, 1, -40631⟩,
    ⟨0x2F95F, 0x2F95F, 1, -163441⟩, ⟨0x2F960, 0x2F960, 1, -178014⟩, ⟨0x2F961, 0x2F961, 1, -40374⟩,
    ⟨0x2F962, 0x2F962, 1, -163228⟩, ⟨0x2F963, 0x2F963, 1, -163226⟩, ⟨0x2F964, 0x2F964, 1, -177981⟩,
    ⟨0x2F965, 0x2F965, 1, -40165⟩, ⟨0x2F966, 0x2F966, 1, -162964⟩, ⟨0x2F967, 0x2F967, 1, -177863⟩,
    ⟨0x2F968, 0x2F968, 1, -162944⟩, ⟨0x2F969, 0x2F969, 1, -162950⟩, ⟨0x2F96A, 0x2F96A, 1, -162922⟩,
    ⟨0x2F96B, 0x2F96B, 1, -39397⟩, ⟨0x2F96C, 0x2F96C, 1, -162825⟩, ⟨0x2F96D, 0x2F96D, 1, -177772⟩,
    ⟨0x2F96E, 0x2F96E, 1, -162727⟩, ⟨0x2F96F, 0x2F96F, 1, -162669⟩, ⟨0x2F970, 0x2F970, 1, -162603⟩,
    ⟨0x2F971, 0x2F971, 1, -177725⟩, ⟨0x2F972, 0x2F972, 1, -38730⟩, ⟨0x2F973, 0x2F973, 1, -38700⟩,
    ⟨0x2F974, 0x2F974, 1, -177691⟩, ⟨0x2F975, 0x2F975, 1, -38556⟩, ⟨0x2F976, 0x2F976, 1, -162300⟩,
    ⟨0x2F977, 0x2F977, 1, -38457⟩, ⟨0x2F978, 0x2F978, 1, -162275⟩, ⟨0x2F979, 0x2F979, 1, -162175⟩,
    ⟨0x2F97A, 0x2F97A, 1, -162165⟩, ⟨0x2F97B, 0x2F97B, 1, -38049⟩, ⟨0x2F97C, 0x2F97C, 1, -37977⟩,
    ⟨0x2F97D, 0x2F97D, 1, -162077⟩, ⟨0x2F97E, 0x2F97E, 1, -37846⟩, ⟨0x2F97F, 0x2F97F, 1, -162063⟩,
    ⟨0x2F980, 0x2F980, 1, -50721⟩, ⟨0x2F981, 0x2F981, 1, -177580⟩, ⟨0x2F982, 0x2F982, 1, -162000⟩,
    ⟨0x2F983, 0x2F983, 1, -161920⟩, ⟨0x2F984, 0x2F984, 1, -177529⟩, ⟨0x2F985, 0x2F985, 1, -161863⟩,
    ⟨0x2F986, 0x2F986, 1, -171729⟩, ⟨0x2F987, 0x2F987, 1, -37344⟩, ⟨0x2F988, 0x2F988, 1, -37331⟩,
    ⟨0x2F989, 0x2F989, 1, -50678⟩, ⟨0x2F98A, 0x2F98A, 1, -50670⟩, ⟨0x2F98B, 0x2F98B, 1, -161674⟩,
    ⟨0x2F98C, 0x2F98C, 1, -161672⟩, ⟨0x2F98D, 0x2F98D, 1, -158191⟩, ⟨0x2F98E, 0x2F98E, 1, -177443⟩,
    ⟨0x2F98F, 0x2F98F, 1, -161534⟩, ⟨0x2F990, 0x2F990, 1, -161541⟩, ⟨0x2F991, 0x2F991, 1, -161524⟩,
    ⟨0x2F992, 0x2F992, 1, -173791⟩, ⟨0x2F993, 0x2F993, 1, -161506⟩, ⟨0x2F994, 0x2F994, 1, -161505⟩,
    ⟨0x2F995, 0x2F995, 1, -161496⟩, ⟨0x2F996, 0x2F996, 1, -161456⟩, ⟨0x2F997, 0x2F997, 1, -36443⟩,
    ⟨0x2F998, 0x2F998, 1, -161459⟩, ⟨0x2F999, 0x2F999, 1, -161404⟩, ⟨0x2F99A, 0x2F99A, 1, -161335⟩,
    ⟨0x2F99B, 0x2F99B, 1, -161262⟩, ⟨0x2F99C, 0x2F99C, 1, -161401⟩, ⟨0x2F99D, 0x2F99D, 1, -161248⟩,
    ⟨0x2F99E, 0x2F99E, 1, -161207⟩, ⟨0x2F99F, 0x2F99F, 1, -161096⟩, ⟨0x2F9A0, 0x2F9A0, 1, -161357⟩,
    ⟨0x2F9A1, 0x2F9A1, 1, -161239⟩, ⟨0x2F9A2, 0x2F9A2, 1, -161238⟩, ⟨0x2F9A3, 0x2F9A3, 1, -161223⟩,
    ⟨0x2F9A4, 0x2F9A4, 1, -36206⟩, ⟨0x2F9A5, 0x2F9A5, 1, -35898⟩, ⟨0x2F9A6, 0x2F9A6, 1, -36049⟩,
    ⟨0x2F9A7, 0x2F9A7, 1, -177276⟩, ⟨0x2F9A8, 0x2F9A8, 1, -160951⟩, ⟨0x2F9A9, 0x2F9A9, 1, -160950⟩,
    ⟨0x2F9AA, 0x2F9AA, 1, -160916⟩, ⟨0x2F9AB, 0x2F9AB, 1, -34273⟩, ⟨0x2F9AC, 0x2F9AC, 1, -160840⟩,
    ⟨0x2F9AD, 0x2F9AD, 1, -35457⟩, ⟨0x2F9AE, 0x2F9AE, 1, -177233⟩, ⟨0x2F9AF, 0x2F9AF, 1, -177230⟩,
    ⟨0x2F9B0, 0x2F9B0, 1, -35327⟩, ⟨0x2F9B1, 0x2F9B1, 1, -35039⟩, ⟨0x2F9B2, 0x2F9B2, 1, -177223⟩,
    ⟨0x2F9B3, 0x2F9B3, 1, -160611⟩, ⟨0x2F9B4, 0x2F9B4, 1, -160600⟩, ⟨0x2F9B5, 0x2F9B5, 1, -160590⟩,
    ⟨0x2F9B6, 0x2F9B6, 1, -160589⟩, ⟨0x2F9B7, 0x2F9B7, 1, -160526⟩, ⟨0x2F9B8, 0x2F9B8, 1, -160560⟩,
    ⟨0x2F9B9, 0x2F9B9, 1, -160427⟩, ⟨0x2F9BA, 0x2F9BA, 1, -160472⟩, ⟨0x2F9BB, 0x2F9BB, 1, -160322⟩,
    ⟨0x2F9BC, 0x2F9BC, 1, -160404⟩, ⟨0x2F9BD, 0x2F9BD, 1, -160338⟩, ⟨0x2F9BE, 0x2F9BE, 1, -160312⟩,
    ⟨0x2F9BF, 0x2F9BF, 1, -177128⟩, ⟨0x2F9C0, 0x2F9C0, 1, -160223⟩, ⟨0x2F9C1, 0x2F9C1, 1, -160192⟩,
    ⟨0x2F9C2, 0x2F9C2, 1, -177097⟩, ⟨0x2F9C3, 0x2F9C3, 1, -160099⟩, ⟨0x2F9C4, 0x2F9C4, 1, -160097⟩,
    ⟨0x2F9C5, 0x2F9C5, 1, -33630⟩, ⟨0x2F9C6, 0x2F9C6, 1, -159983⟩, ⟨0x2F9C7, 0x2F9C7, 1, -159977⟩,
    ⟨0x2F9C8, 0x2F9C8, 1, -177043⟩, ⟨0x2F9C9, 0x2F9C9, 1, -159951⟩, ⟨0x2F9CA, 0x2F9CA, 1, -181519⟩,
    ⟨0x2F9CB, 0x2F9CB, 1, -33053⟩, ⟨0x2F9CC, 0x2F9CC, 1, -32870⟩, ⟨0x2F9CD, 0x2F9CD, 1, -176911⟩,
    ⟨0x2F9CE, 0x2F9CE, 1, -176903⟩, ⟨0x2F9CF, 0x2F9CF, 1, -159535⟩, ⟨0x2F9D0, 0x2F9D0, 1, -159459⟩,
    ⟨0x2F9D1, 0x2F9D1, 1, -159303⟩, ⟨0x2F9D2, 0x2F9D2, 1, -159101⟩, ⟨0x2F9D3, 0x2F9D3, 1, -32043⟩,
    ⟨0x2F9D4, 0x2F9D4, 1, -159017⟩, ⟨0x2F9D5, 0x2F9D5, 1, -158996⟩, ⟨0x2F9D6, 0x2F9D6, 1, -158907⟩,
    ⟨0x2F9D7, 0x2F9D7, 1, -158816⟩, ⟨0x2F9D8, 0x2F9D8, 1, -31401⟩, ⟨0x2F9D9, 0x2F9D9, 1, -61909⟩,
    ⟨0x2F9DA, 0x2F9DA, 1, -158735⟩, ⟨0x2F9DB, 0x2F9DB, 1, -158751⟩, ⟨0x2F9DC, 0x2F9DC, 1, -158700⟩,
    ⟨0x2F9DD, 0x2F9DD, 1, -61695⟩, ⟨0x2F9DE, 0x2F9DE, 1, -158474⟩, ⟨0x2F9DF, 0x2F9DF, 1, -158375⟩,
    ⟨0x2F9E0, 0x2F9E0, 1, -29710⟩, ⟨0x2F9E1, 0x2F9E1, 1, -29684⟩, ⟨0x2F9E2, 0x2F9E2, 1, -158030⟩,
    ⟨0x2F9E3, 0x2F9E3, 1, -157938⟩, ⟨0x2F9E4, 0x2F9E4, 1, -157907⟩, ⟨0x2F9E5, 0x2F9E5, 1, -29367⟩,
    ⟨0x2F9E6, 0x2F9E6, 1, -157899⟩, ⟨0x2F9E7, 0x2F9E7, 1, -157615⟩, ⟨0x2F9E8, 0x2F9E9, 1, -157457⟩,
    ⟨0x2F9EA, 0x2F9EA, 1, -157550⟩, ⟨0x2F9EB, 0x2F9EB, 1, -157170⟩, ⟨0x2F9EC, 0x2F9EC, 1, -157143⟩,
    ⟨0x2F9ED, 0x2F9ED, 1, -28147⟩, ⟨0x2F9EE, 0x2F9EE, 1, -156771⟩, ⟨0x2F9EF, 0x2F9EF, 1, -176218⟩,
    ⟨0x2F9F0, 0x2F9F0, 1, -156729⟩, ⟨0x2F9F1, 0x2F9F1, 1, -27770⟩, ⟨0x2F9F2, 0x2F9F2, 1, -176140⟩,
    ⟨0x2F9F3, 0x2F9F3, 1, -156464⟩, ⟨0x2F9F4, 0x2F9F4, 1, -171074⟩, ⟨0x2F9F5, 0x2F9F5, 1, -156370⟩,
    ⟨0x2F9F6, 0x2F9F6, 1, -26801⟩, ⟨0x2F9F7, 0x2F9F7, 1, -26589⟩, ⟨0x2F9F8, 0x2F9F8, 1, -176010⟩,
    ⟨0x2F9F9, 0x2F9F9, 1, -176003⟩, ⟨0x2F9FA, 0x2F9FA, 1, -156186⟩, ⟨0x2F9FB, 0x2F9FB, 1, -26097⟩,
    ⟨0x2F9FC, 0x2F9FC, 1, -175946⟩, ⟨0x2F9FD, 0x2F9FD, 1, -25959⟩, ⟨0x2F9FE, 0x2F9FE, 1, -156147⟩,
    ⟨0x2F9FF, 0x2F9FF, 1, -156148⟩, ⟨0x2FA00, 0x2FA00, 1, -156119⟩, ⟨0x2FA01, 0x2FA01, 1, -25675⟩,
    ⟨0x2FA02, 0x2FA02, 1, -155936⟩, ⟨0x2FA03, 0x2FA03, 1, -175824⟩, ⟨0x2FA04, 0x2FA04, 1, -155867⟩,
    ⟨0x2FA05, 0x2FA05, 1, -155742⟩, ⟨0x2FA06, 0x2FA06, 1, -155716⟩, ⟨0x2FA07, 0x2FA07, 1, -155657⟩,
    ⟨0x2FA08, 0x2FA08, 1, -175674⟩, ⟨0x2FA09, 0x2FA09, 1, -24281⟩, ⟨0x2FA0A, 0x2FA0A, 1, -155384⟩,
    ⟨0x2FA0B, 0x2FA0B, 1, -155083⟩, ⟨0x2FA0C, 0x2FA0C, 1, -154895⟩, ⟨0x2FA0D, 0x2FA0D, 1, -175423⟩,
    ⟨0x2FA0E, 0x2FA0E, 1, -175393⟩, ⟨0x2FA0F, 0x2FA0F, 1, -154792⟩, ⟨0x2FA10, 0x2FA10, 1, -22850⟩,
    ⟨0x2FA11, 0x2FA11, 1, -175385⟩, ⟨0x2FA12, 0x2FA12, 1, -22797⟩, ⟨0x2FA13, 0x2FA13, 1, -22533⟩,
    ⟨0x2FA14, 0x2FA14, 1, -22403⟩, ⟨0x2FA15, 0x2FA15, 1, -154458⟩, ⟨0x2FA16, 0x2FA16, 1, -175296⟩,
    ⟨0x2FA17, 0x2FA17, 1, -154398⟩, ⟨0x2FA18, 0x2FA18, 1, -154394⟩, ⟨0x2FA19, 0x2FA19, 1, -154388⟩,
    ⟨0x2FA1A, 0x2FA1A, 1, -154379⟩, ⟨0x2FA1B, 0x2FA1B, 1, -154373⟩, ⟨0x2FA1C, 0x2FA1C, 1, -154337⟩,
    ⟨0x2FA1D, 0x2FA1D, 1, -21533⟩]

/-- Signs that are spelled as a sequence. -/
def sequences : List (Nat × List Nat) := [
    (0x309B, [0x20, 0x3099]), (0x309C, [0x20, 0x309A]), (0x309F, [0x3088, 0x308A]),
    (0x30FF, [0x30B3, 0x30C8]), (0x3200, [0x28, 0x1100, 0x29]), (0x3201, [0x28, 0x1102, 0x29]),
    (0x3202, [0x28, 0x1103, 0x29]), (0x3203, [0x28, 0x1105, 0x29]), (0x3204, [0x28, 0x1106, 0x29]),
    (0x3205, [0x28, 0x1107, 0x29]), (0x3206, [0x28, 0x1109, 0x29]), (0x3207, [0x28, 0x110B, 0x29]),
    (0x3208, [0x28, 0x110C, 0x29]), (0x3209, [0x28, 0x110E, 0x29]), (0x320A, [0x28, 0x110F, 0x29]),
    (0x320B, [0x28, 0x1110, 0x29]), (0x320C, [0x28, 0x1111, 0x29]), (0x320D, [0x28, 0x1112, 0x29]),
    (0x320E, [0x28, 0xAC00, 0x29]), (0x320F, [0x28, 0xB098, 0x29]), (0x3210, [0x28, 0xB2E4, 0x29]),
    (0x3211, [0x28, 0xB77C, 0x29]), (0x3212, [0x28, 0xB9C8, 0x29]), (0x3213, [0x28, 0xBC14, 0x29]),
    (0x3214, [0x28, 0xC0AC, 0x29]), (0x3215, [0x28, 0xC544, 0x29]), (0x3216, [0x28, 0xC790, 0x29]),
    (0x3217, [0x28, 0xCC28, 0x29]), (0x3218, [0x28, 0xCE74, 0x29]), (0x3219, [0x28, 0xD0C0, 0x29]),
    (0x321A, [0x28, 0xD30C, 0x29]), (0x321B, [0x28, 0xD558, 0x29]), (0x321C, [0x28, 0xC8FC, 0x29]),
    (0x321D, [0x28, 0xC624, 0xC804, 0x29]), (0x321E, [0x28, 0xC624, 0xD6C4, 0x29]),
    (0x3220, [0x28, 0x4E00, 0x29]), (0x3221, [0x28, 0x4E8C, 0x29]), (0x3222, [0x28, 0x4E09, 0x29]),
    (0x3223, [0x28, 0x56DB, 0x29]), (0x3224, [0x28, 0x4E94, 0x29]), (0x3225, [0x28, 0x516D, 0x29]),
    (0x3226, [0x28, 0x4E03, 0x29]), (0x3227, [0x28, 0x516B, 0x29]), (0x3228, [0x28, 0x4E5D, 0x29]),
    (0x3229, [0x28, 0x5341, 0x29]), (0x322A, [0x28, 0x6708, 0x29]), (0x322B, [0x28, 0x706B, 0x29]),
    (0x322C, [0x28, 0x6C34, 0x29]), (0x322D, [0x28, 0x6728, 0x29]), (0x322E, [0x28, 0x91D1, 0x29]),
    (0x322F, [0x28, 0x571F, 0x29]), (0x3230, [0x28, 0x65E5, 0x29]), (0x3231, [0x28, 0x682A, 0x29]),
    (0x3232, [0x28, 0x6709, 0x29]), (0x3233, [0x28, 0x793E, 0x29]), (0x3234, [0x28, 0x540D, 0x29]),
    (0x3235, [0x28, 0x7279, 0x29]), (0x3236, [0x28, 0x8CA1, 0x29]), (0x3237, [0x28, 0x795D, 0x29]),
    (0x3238, [0x28, 0x52B4, 0x29]), (0x3239, [0x28, 0x4EE3, 0x29]), (0x323A, [0x28, 0x547C, 0x29]),
    (0x323B, [0x28, 0x5B66, 0x29]), (0x323C, [0x28, 0x76E3, 0x29]), (0x323D, [0x28, 0x4F01, 0x29]),
    (0x323E, [0x28, 0x8CC7, 0x29]), (0x323F, [0x28, 0x5354, 0x29]), (0x3240, [0x28, 0x796D, 0x29]),
    (0x3241, [0x28, 0x4F11, 0x29]), (0x3242, [0x28, 0x81EA, 0x29]), (0x3243, [0x28, 0x81F3, 0x29]),
    (0x3250, [0x70, 0x74, 0x65]), (0x3251, [0x32, 0x31]), (0x3252, [0x32, 0x32]),
    (0x3253, [0x32, 0x33]), (0x3254, [0x32, 0x34]), (0x3255, [0x32, 0x35]), (0x3256, [0x32, 0x36]),
    (0x3257, [0x32, 0x37]), (0x3258, [0x32, 0x38]), (0x3259, [0x32, 0x39]), (0x325A, [0x33, 0x30]),
    (0x325B, [0x33, 0x31]), (0x325C, [0x33, 0x32]), (0x325D, [0x33, 0x33]), (0x325E, [0x33, 0x34]),
    (0x325F, [0x33, 0x35]), (0x327C, [0xCC38, 0xACE0]), (0x327D, [0xC8FC, 0xC758]),
    (0x32B1, [0x33, 0x36]), (0x32B2, [0x33, 0x37]), (0x32B3, [0x33, 0x38]), (0x32B4, [0x33, 0x39]),
    (0x32B5, [0x34, 0x30]), (0x32B6, [0x34, 0x31]), (0x32B7, [0x34, 0x32]), (0x32B8, [0x34, 0x33]),
    (0x32B9, [0x34, 0x34]), (0x32BA, [0x34, 0x35]), (0x32BB, [0x34, 0x36]), (0x32BC, [0x34, 0x37]),
    (0x32BD, [0x34, 0x38]), (0x32BE, [0x34, 0x39]), (0x32BF, [0x35, 0x30]),
    (0x32C0, [0x31, 0x6708]), (0x32C1, [0x32, 0x6708]), (0x32C2, [0x33, 0x6708]),
    (0x32C3, [0x34, 0x6708]), (0x32C4, [0x35, 0x6708]), (0x32C5, [0x36, 0x6708]),
    (0x32C6, [0x37, 0x6708]), (0x32C7, [0x38, 0x6708]), (0x32C8, [0x39, 0x6708]),
    (0x32C9, [0x31, 0x30, 0x6708]), (0x32CA, [0x31, 0x31, 0x6708]), (0x32CB, [0x31, 0x32, 0x6708]),
    (0x32CC, [0x68, 0x67]), (0x32CD, [0x65, 0x72, 0x67]), (0x32CE, [0x65, 0x76]),
    (0x32CF, [0x6C, 0x74, 0x64]), (0x32FF, [0x4EE4, 0x548C]),
    (0x3300, [0x30A2, 0x30D1, 0x30FC, 0x30C8]), (0x3301, [0x30A2, 0x30EB, 0x30D5, 0x30A1]),
    (0x3302, [0x30A2, 0x30F3, 0x30DA, 0x30A2]), (0x3303, [0x30A2, 0x30FC, 0x30EB]),
    (0x3304, [0x30A4, 0x30CB, 0x30F3, 0x30B0]), (0x3305, [0x30A4, 0x30F3, 0x30C1]),
    (0x3306, [0x30A6, 0x30A9, 0x30F3]), (0x3307, [0x30A8, 0x30B9, 0x30AF, 0x30FC, 0x30C9]),
    (0x3308, [0x30A8, 0x30FC, 0x30AB, 0x30FC]), (0x3309, [0x30AA, 0x30F3, 0x30B9]),
    (0x330A, [0x30AA, 0x30FC, 0x30E0]), (0x330B, [0x30AB, 0x30A4, 0x30EA]),
    (0x330C, [0x30AB, 0x30E9, 0x30C3, 0x30C8]), (0x330D, [0x30AB, 0x30ED, 0x30EA, 0x30FC]),
    (0x330E, [0x30AC, 0x30ED, 0x30F3]), (0x330F, [0x30AC, 0x30F3, 0x30DE]),
    (0x3310, [0x30AE, 0x30AC]), (0x3311, [0x30AE, 0x30CB, 0x30FC]),
    (0x3312, [0x30AD, 0x30E5, 0x30EA, 0x30FC]), (0x3313, [0x30AE, 0x30EB, 0x30C0, 0x30FC]),
    (0x3314, [0x30AD, 0x30ED]), (0x3315, [0x30AD, 0x30ED, 0x30B0, 0x30E9, 0x30E0]),
    (0x3316, [0x30AD, 0x30ED, 0x30E1, 0x30FC, 0x30C8, 0x30EB]),
    (0x3317, [0x30AD, 0x30ED, 0x30EF, 0x30C3, 0x30C8]), (0x3318, [0x30B0, 0x30E9, 0x30E0]),
    (0x3319, [0x30B0, 0x30E9, 0x30E0, 0x30C8, 0x30F3]),
    (0x331A, [0x30AF, 0x30EB, 0x30BC, 0x30A4, 0x30ED]), (0x331B, [0x30AF, 0x30ED, 0x30FC, 0x30CD]),
    (0x331C, [0x30B1, 0x30FC, 0x30B9]), (0x331D, [0x30B3, 0x30EB, 0x30CA]),
    (0x331E, [0x30B3, 0x30FC, 0x30DD]), (0x331F, [0x30B5, 0x30A4, 0x30AF, 0x30EB]),
    (0x3320, [0x30B5, 0x30F3, 0x30C1, 0x30FC, 0x30E0]), (0x3321, [0x30B7, 0x30EA, 0x30F3, 0x30B0]),
    (0x3322, [0x30BB, 0x30F3, 0x30C1]), (0x3323, [0x30BB, 0x30F3, 0x30C8]),
    (0x3324, [0x30C0, 0x30FC, 0x30B9]), (0x3325, [0x30C7, 0x30B7]), (0x3326, [0x30C9, 0x30EB]),
    (0x3327, [0x30C8, 0x30F3]), (0x3328, [0x30CA, 0x30CE]), (0x3329, [0x30CE, 0x30C3, 0x30C8]),
    (0x332A, [0x30CF, 0x30A4, 0x30C4]), (0x332B, [0x30D1, 0x30FC, 0x30BB, 0x30F3, 0x30C8]),
    (0x332C, [0x30D1, 0x30FC, 0x30C4]), (0x332D, [0x30D0, 0x30FC, 0x30EC, 0x30EB]),
    (0x332E, [0x30D4, 0x30A2, 0x30B9, 0x30C8, 0x30EB]), (0x332F, [0x30D4, 0x30AF, 0x30EB]),
    (0x3330, [0x30D4, 0x30B3]), (0x3331, [0x30D3, 0x30EB]),
    (0x3332, [0x30D5, 0x30A1, 0x30E9, 0x30C3, 0x30C9]), (0x3333, [0x30D5, 0x30A3, 0x30FC, 0x30C8]),
    (0x3334, [0x30D6, 0x30C3, 0x30B7, 0x30A7, 0x30EB]), (0x3335, [0x30D5, 0x30E9, 0x30F3]),
    (0x3336, [0x30D8, 0x30AF, 0x30BF, 0x30FC, 0x30EB]), (0x3337, [0x30DA, 0x30BD]),
    (0x3338, [0x30DA, 0x30CB, 0x30D2]), (0x3339, [0x30D8, 0x30EB, 0x30C4]),
    (0x333A, [0x30DA, 0x30F3, 0x30B9]), (0x333B, [0x30DA, 0x30FC, 0x30B8]),
    (0x333C, [0x30D9, 0x30FC, 0x30BF]), (0x333D, [0x30DD, 0x30A4, 0x30F3, 0x30C8]),
    (0x333E, [0x30DC, 0x30EB, 0x30C8]), (0x333F, [0x30DB, 0x30F3]),
    (0x3340, [0x30DD, 0x30F3, 0x30C9]), (0x3341, [0x30DB, 0x30FC, 0x30EB]),
    (0x3342, [0x30DB, 0x30FC, 0x30F3]), (0x3343, [0x30DE, 0x30A4, 0x30AF, 0x30ED]),
    (0x3344, [0x30DE, 0x30A4, 0x30EB]), (0x3345, [0x30DE, 0x30C3, 0x30CF]),
    (0x3346, [0x30DE, 0x30EB, 0x30AF]), (0x3347, [0x30DE, 0x30F3, 0x30B7, 0x30E7, 0x30F3]),
    (0x3348, [0x30DF, 0x30AF, 0x30ED, 0x30F3]), (0x3349, [0x30DF, 0x30EA]),
    (0x334A, [0x30DF, 0x30EA, 0x30D0, 0x30FC, 0x30EB]), (0x334B, [0x30E1, 0x30AC]),
    (0x334C, [0x30E1, 0x30AC, 0x30C8, 0x30F3]), (0x334D, [0x30E1, 0x30FC, 0x30C8, 0x30EB]),
    (0x334E, [0x30E4, 0x30FC, 0x30C9]), (0x334F, [0x30E4, 0x30FC, 0x30EB]),
    (0x3350, [0x30E6, 0x30A2, 0x30F3]), (0x3351, [0x30EA, 0x30C3, 0x30C8, 0x30EB]),
    (0x3352, [0x30EA, 0x30E9]), (0x3353, [0x30EB, 0x30D4, 0x30FC]),
    (0x3354, [0x30EB, 0x30FC, 0x30D6, 0x30EB]), (0x3355, [0x30EC, 0x30E0]),
    (0x3356, [0x30EC, 0x30F3, 0x30C8, 0x30B2, 0x30F3]), (0x3357, [0x30EF, 0x30C3, 0x30C8]),
    (0x3358, [0x30, 0x70B9]), (0x3359, [0x31, 0x70B9]), (0x335A, [0x32, 0x70B9]),
    (0x335B, [0x33, 0x70B9]), (0x335C, [0x34, 0x70B9]), (0x335D, [0x35, 0x70B9]),
    (0x335E, [0x36, 0x70B9]), (0x335F, [0x37, 0x70B9]), (0x3360, [0x38, 0x70B9]),
    (0x3361, [0x39, 0x70B9]), (0x3362, [0x31, 0x30, 0x70B9]), (0x3363, [0x31, 0x31, 0x70B9]),
    (0x3364, [0x31, 0x32, 0x70B9]), (0x3365, [0x31, 0x33, 0x70B9]), (0x3366, [0x31, 0x34, 0x70B9]),
    (0x3367, [0x31, 0x35, 0x70B9]), (0x3368, [0x31, 0x36, 0x70B9]), (0x3369, [0x31, 0x37, 0x70B9]),
    (0x336A, [0x31, 0x38, 0x70B9]), (0x336B, [0x31, 0x39, 0x70B9]), (0x336C, [0x32, 0x30, 0x70B9]),
    (0x336D, [0x32, 0x31, 0x70B9]), (0x336E, [0x32, 0x32, 0x70B9]), (0x336F, [0x32, 0x33, 0x70B9]),
    (0x3370, [0x32, 0x34, 0x70B9]), (0x3371, [0x68, 0x70, 0x61]), (0x3372, [0x64, 0x61]),
    (0x3373, [0x61, 0x75]), (0x3374, [0x62, 0x61, 0x72]), (0x3375, [0x6F, 0x76]),
    (0x3376, [0x70, 0x63]), (0x3377, [0x64, 0x6D]), (0x3378, [0x64, 0x6D, 0x32]),
    (0x3379, [0x64, 0x6D, 0x33]), (0x337A, [0x69, 0x75]), (0x337B, [0x5E73, 0x6210]),
    (0x337C, [0x662D, 0x548C]), (0x337D, [0x5927, 0x6B63]), (0x337E, [0x660E, 0x6CBB]),
    (0x337F, [0x682A, 0x5F0F, 0x4F1A, 0x793E]), (0x3380, [0x70, 0x61]), (0x3381, [0x6E, 0x61]),
    (0x3382, [0x3BC, 0x61]), (0x3383, [0x6D, 0x61]), (0x3384, [0x6B, 0x61]), (0x3385, [0x6B, 0x62]),
    (0x3386, [0x6D, 0x62]), (0x3387, [0x67, 0x62]), (0x3388, [0x63, 0x61, 0x6C]),
    (0x3389, [0x6B, 0x63, 0x61, 0x6C]), (0x338A, [0x70, 0x66]), (0x338B, [0x6E, 0x66]),
    (0x338C, [0x3BC, 0x66]), (0x338D, [0x3BC, 0x67]), (0x338E, [0x6D, 0x67]),
    (0x338F, [0x6B, 0x67]), (0x3390, [0x68, 0x7A]), (0x3391, [0x6B, 0x68, 0x7A]),
    (0x3392, [0x6D, 0x68, 0x7A]), (0x3393, [0x67, 0x68, 0x7A]), (0x3394, [0x74, 0x68, 0x7A]),
    (0x3395, [0x3BC, 0x6C]), (0x3396, [0x6D, 0x6C]), (0x3397, [0x64, 0x6C]), (0x3398, [0x6B, 0x6C]),
    (0x3399, [0x66, 0x6D]), (0x339A, [0x6E, 0x6D]), (0x339B, [0x3BC, 0x6D]), (0x339C, [0x6D, 0x6D]),
    (0x339D, [0x63, 0x6D]), (0x339E, [0x6B, 0x6D]), (0x339F, [0x6D, 0x6D, 0x32]),
    (0x33A0, [0x63, 0x6D, 0x32]), (0x33A1, [0x6D, 0x32]), (0x33A2, [0x6B, 0x6D, 0x32]),
    (0x33A3, [0x6D, 0x6D, 0x33]), (0x33A4, [0x63, 0x6D, 0x33]), (0x33A5, [0x6D, 0x33]),
    (0x33A6, [0x6B, 0x6D, 0x33]), (0x33A7, [0x6D, 0x2215, 0x73]),
    (0x33A8, [0x6D, 0x2215, 0x73, 0x32]), (0x33A9, [0x70, 0x61]), (0x33AA, [0x6B, 0x70, 0x61]),
    (0x33AB, [0x6D, 0x70, 0x61]), (0x33AC, [0x67, 0x70, 0x61]), (0x33AD, [0x72, 0x61, 0x64]),
    (0x33AE, [0x72, 0x61, 0x64, 0x2215, 0x73]), (0x33AF, [0x72, 0x61, 0x64, 0x2215, 0x73, 0x32]),
    (0x33B0, [0x70, 0x73]), (0x33B1, [0x6E, 0x73]), (0x33B2, [0x3BC, 0x73]), (0x33B3, [0x6D, 0x73]),
    (0x33B4, [0x70, 0x76]), (0x33B5, [0x6E, 0x76]), (0x33B6, [0x3BC, 0x76]), (0x33B7, [0x6D, 0x76]),
    (0x33B8, [0x6B, 0x76]), (0x33B9, [0x6D, 0x76]), (0x33BA, [0x70, 0x77]), (0x33BB, [0x6E, 0x77]),
    (0x33BC, [0x3BC, 0x77]), (0x33BD, [0x6D, 0x77]), (0x33BE, [0x6B, 0x77]), (0x33BF, [0x6D, 0x77]),
    (0x33C0, [0x6B, 0x3C9]), (0x33C1, [0x6D, 0x3C9]), (0x33C3, [0x62, 0x71]),
    (0x33C4, [0x63, 0x63]), (0x33C5, [0x63, 0x64]), (0x33C6, [0x63, 0x2215, 0x6B, 0x67]),
    (0x33C8, [0x64, 0x62]), (0x33C9, [0x67, 0x79]), (0x33CA, [0x68, 0x61]), (0x33CB, [0x68, 0x70]),
    (0x33CC, [0x69, 0x6E]), (0x33CD, [0x6B, 0x6B]), (0x33CE, [0x6B, 0x6D]), (0x33CF, [0x6B, 0x74]),
    (0x33D0, [0x6C, 0x6D]), (0x33D1, [0x6C, 0x6E]), (0x33D2, [0x6C, 0x6F, 0x67]),
    (0x33D3, [0x6C, 0x78]), (0x33D4, [0x6D, 0x62]), (0x33D5, [0x6D, 0x69, 0x6C]),
    (0x33D6, [0x6D, 0x6F, 0x6C]), (0x33D7, [0x70, 0x68]), (0x33D9, [0x70, 0x70, 0x6D]),
    (0x33DA, [0x70, 0x72]), (0x33DB, [0x73, 0x72]), (0x33DC, [0x73, 0x76]), (0x33DD, [0x77, 0x62]),
    (0x33DE, [0x76, 0x2215, 0x6D]), (0x33DF, [0x61, 0x2215, 0x6D]), (0x33E0, [0x31, 0x65E5]),
    (0x33E1, [0x32, 0x65E5]), (0x33E2, [0x33, 0x65E5]), (0x33E3, [0x34, 0x65E5]),
    (0x33E4, [0x35, 0x65E5]), (0x33E5, [0x36, 0x65E5]), (0x33E6, [0x37, 0x65E5]),
    (0x33E7, [0x38, 0x65E5]), (0x33E8, [0x39, 0x65E5]), (0x33E9, [0x31, 0x30, 0x65E5]),
    (0x33EA, [0x31, 0x31, 0x65E5]), (0x33EB, [0x31, 0x32, 0x65E5]), (0x33EC, [0x31, 0x33, 0x65E5]),
    (0x33ED, [0x31, 0x34, 0x65E5]), (0x33EE, [0x31, 0x35, 0x65E5]), (0x33EF, [0x31, 0x36, 0x65E5]),
    (0x33F0, [0x31, 0x37, 0x65E5]), (0x33F1, [0x31, 0x38, 0x65E5]), (0x33F2, [0x31, 0x39, 0x65E5]),
    (0x33F3, [0x32, 0x30, 0x65E5]), (0x33F4, [0x32, 0x31, 0x65E5]), (0x33F5, [0x32, 0x32, 0x65E5]),
    (0x33F6, [0x32, 0x33, 0x65E5]), (0x33F7, [0x32, 0x34, 0x65E5]), (0x33F8, [0x32, 0x35, 0x65E5]),
    (0x33F9, [0x32, 0x36, 0x65E5]), (0x33FA, [0x32, 0x37, 0x65E5]), (0x33FB, [0x32, 0x38, 0x65E5]),
    (0x33FC, [0x32, 0x39, 0x65E5]), (0x33FD, [0x33, 0x30, 0x65E5]), (0x33FE, [0x33, 0x31, 0x65E5]),
    (0x33FF, [0x67, 0x61, 0x6C])]

end PartSourcing.Url.IdeographTable
